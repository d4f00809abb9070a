/-
Paths.

Paths of files with slashes between their parts.  Empty parts and single points do not count; a
leading slash is the root, and two leading slashes are another root.

Main statements:
* `Path.ofText` — the path that a text stands for;
* `Path.parts`, `Path.name`, `Path.suffix` — what it is made of;
* `Path.text` — the path written out.
-/
import ReleaseNotes.Text

namespace ReleaseNotes

/-- A path: its root, which is empty for a relative path, and its steps. -/
structure Path where
  root : Text
  steps : List Text
  deriving DecidableEq, Repr

namespace Path

/-- The root of a path. -/
def rootOf : Text → Text
  | .char '/' :: .char '/' :: .char '/' :: _ => "/"
  | .char '/' :: .char '/' :: _ => "//"
  | .char '/' :: _ => "/"
  | _ => ""

/-- The steps of a path. -/
def stepsOf (t : Text) : List Text :=
  (t.splitOn (.char '/')).filter fun step => step != [] && step != [.char '.']

/-- The path that a text stands for. -/
def ofText (t : Text) : Path := ⟨rootOf t, stepsOf t⟩

/-- The parts of a path, its root first. -/
def parts (p : Path) : List Text := if p.root = [] then p.steps else p.root :: p.steps

/-- The path written out. -/
def text (p : Path) : Text :=
  if p.parts = [] then "." else p.root ++ Text.joinWith "/" p.steps

/-- The last step of a path. -/
def name (p : Path) : Text := p.steps.getLastD []

/-- The name from its last point on, unless it begins or ends with that point. -/
def suffix (p : Path) : Text :=
  let reversed := p.name.reverse
  let extension := (reversed.takeWhile (· != .char '.')).reverse
  match reversed.dropWhile (· != .char '.') with
  | _ :: stem => if stem.isEmpty || extension.isEmpty then [] else .char '.' :: extension
  | [] => []

end Path
end ReleaseNotes
