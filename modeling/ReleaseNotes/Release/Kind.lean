/-
Kinds of release.

A release raises one part of the version.

Main statements:
* `ReleaseKind` — the part that a release raises;
* `ReleaseKind.severity` — the order of the kinds;
* `ReleaseKind.most?` — the most severe of several kinds.
-/
import ReleaseNotes.Failure

namespace ReleaseNotes

/-- The part of the version that a release raises. -/
inductive ReleaseKind where
  | major
  | minor
  | patch
  deriving DecidableEq, Repr

namespace ReleaseKind

/-- All kinds. -/
def all : List ReleaseKind := [major, minor, patch]

/-- The word for a kind. -/
def word : ReleaseKind → String
  | major => "major"
  | minor => "minor"
  | patch => "patch"

/-- The word for a kind in capitals. -/
def capitals : ReleaseKind → String
  | major => "MAJOR"
  | minor => "MINOR"
  | patch => "PATCH"

/-- How severe a kind is. -/
def severity : ReleaseKind → Nat
  | patch => 1
  | minor => 2
  | major => 3

/-- The kind that a word stands for. -/
def ofWord? (t : Text) : Option ReleaseKind := all.find? fun k => t.isString k.word

/-- The kind that a value stands for. -/
def read (given : Json) : Except Failure ReleaseKind :=
  match given with
  | .str t => (ofWord? t).elim (.error (.notReleaseKind given)) .ok
  | _ => .error (.notReleaseKind given)

/-- The more severe of two kinds. -/
def max (a b : ReleaseKind) : ReleaseKind := if a.severity < b.severity then b else a

/-- The most severe of the kinds that are given. -/
def most? : List (Option ReleaseKind) → Option ReleaseKind
  | [] => none
  | none :: rest => most? rest
  | some k :: rest => match most? rest with
    | none => some k
    | some m => some (k.max m)

@[simp] theorem ofWord?_word (k : ReleaseKind) : ofWord? (Text.ofString k.word) = some k := by
  cases k <;> decide

theorem severity_inj {a b : ReleaseKind} : a.severity = b.severity ↔ a = b := by
  cases a <;> cases b <;> decide

theorem severity_max (a b : ReleaseKind) : (a.max b).severity = Nat.max a.severity b.severity := by
  cases a <;> cases b <;> decide

end ReleaseKind
end ReleaseNotes
