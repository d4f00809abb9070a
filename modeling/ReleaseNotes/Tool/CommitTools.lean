/-
The tools on commits.

What the model may ask about a commit: its diff, with each patch cut to a limit, and its impact,
which sums its files up.

Main statements:
* `Patch.truncate` — a patch cut to a limit;
* `Impact.ofDiff` — the impact of a commit;
* `CommitTools.registry` — the registry of the two tools.
-/
import ReleaseNotes.Release.Commit
import ReleaseNotes.Text.Letter
import ReleaseNotes.Text.SmallLetter
import ReleaseNotes.Text.Path
import ReleaseNotes.Tool.Registration

namespace ReleaseNotes

namespace Patch

/-- What a text that was cut ends in. -/
def ellipsis : Text := "..."

/-- The text before a place; a negative place counts from the end. -/
def before (t : Text) (place : Int) : Text :=
  if 0 ≤ place then t.take place.toNat else t.take (t.length + place).toNat

/-- A text cut to a limit, with room for the ellipsis. -/
def truncate (limit : Int) (t : Text) : Text :=
  if (t.length : Int) ≤ limit then t else before t (limit - ellipsis.length) ++ ellipsis

/-- A text cut to a limit, as values say them.  A limit that is no integer is no place to cut at. -/
def truncateGiven (limit : Json) : Json → Except Failure Text
  | .str t => match limit with
    | .int n => .ok (truncate n t)
    | .bool b => .ok (truncate (if b then 1 else 0) t)
    | .float x =>
      if Decimal.floatOfInt t.length ≤ x then .ok t else .error (.misuse .noPlace)
    | j => .error (.misuse (.unordered "<=" "int" j.kindName))
  | j => .error (.misuse (.noLength j.kindName))

end Patch

/-- The sizes of a commit. -/
inductive CommitSize where
  | small
  | medium
  | large
  deriving DecidableEq, Repr

namespace CommitSize

/-- The size of a commit with so many changed lines. -/
def ofLines (lines : Int) : CommitSize :=
  if lines < 50 then small else if lines < 500 then medium else large

/-- The size of a commit with so many changed lines, as a value says it. -/
def ofGiven : Json → Except Failure CommitSize
  | .int n => .ok (ofLines n)
  | .bool b => .ok (ofLines (if b then 1 else 0))
  | .float x => .ok (if x < 50.0 then small else if x < 500.0 then medium else large)
  | j => .error (.misuse (.unordered "<" j.kindName "int"))

/-- The word for a size. -/
def word : CommitSize → String
  | small => "small"
  | medium => "medium"
  | large => "large"

end CommitSize

/-- The impact of a commit. -/
structure Impact where
  sha : Text
  files : Nat
  additions : Nat
  deletions : Nat
  areas : List Text
  tests : Bool
  docs : Bool
  dependencies : Bool
  deriving DecidableEq, Repr

namespace Impact

/-- What the path of a test holds. -/
def testMarkers : List Text := ["test", "spec"]

/-- The suffixes of documents. -/
def documentSuffixes : List Text := [".md", ".rst", ".txt", ".adoc"]

/-- The directory of documents. -/
def documentDirectory : Text := "docs"

/-- The files that name dependencies. -/
def manifests : List Text := [
  "package.json", "package-lock.json", "pyproject.toml", "requirements.txt", "poetry.lock",
  "uv.lock", "go.mod", "go.sum", "Cargo.toml", "Cargo.lock", "pom.xml", "build.gradle"]

/-- Whether a path is that of a test. -/
def isTest (p : Path) : Bool :=
  testMarkers.any fun marker => occurs marker p.text.lowered

/-- Whether a path is that of a document. -/
def isDocument (p : Path) : Bool :=
  documentSuffixes.contains p.suffix.lowered || p.parts.contains documentDirectory

/-- Whether a path is that of a manifest. -/
def isManifest (p : Path) : Bool := manifests.contains p.name

/-- The area of a path: its first part, or a point for a path of one part. -/
def area (p : Path) : Text :=
  match p.parts with
  | first :: _ :: _ => first
  | _ => "."

/-- An area put into its place among areas in ascending order. -/
def insertArea (a : Text) : List Text → List Text
  | [] => [a]
  | b :: rest =>
    if a.isBefore b then a :: b :: rest
    else if a = b then b :: rest
    else b :: insertArea a rest

/-- The areas of paths, each once, in ascending order. -/
def areasOf (paths : List Path) : List Text :=
  paths.foldr (fun p areas => insertArea (area p) areas) []

/-- The paths of a commit. -/
def pathsOf (d : CommitDiff) : List Path := d.files.map fun f => Path.ofText f.path

/-- The impact of a commit. -/
def ofDiff (d : CommitDiff) : Impact :=
  let paths := pathsOf d
  { sha := d.sha
    files := d.files.length
    additions := d.additions
    deletions := d.deletions
    areas := areasOf paths
    tests := paths.any isTest
    docs := paths.any isDocument
    dependencies := paths.any isManifest }

/-- The size of a commit. -/
def size (i : Impact) : CommitSize := CommitSize.ofLines (i.additions + i.deletions)

/-- The fields of an impact. -/
def toJson (i : Impact) : Json :=
  .record [
    ("sha", .str i.sha), ("files_changed", .nat i.files), ("additions", .nat i.additions),
    ("deletions", .nat i.deletions), ("size", .text i.size.word),
    ("areas", .arr (i.areas.map .str)), ("touches_tests", .bool i.tests),
    ("touches_docs", .bool i.docs), ("touches_dependencies", .bool i.dependencies)]

end Impact

/-- Where commits come from: repository and hash, in full or in part. -/
abbrev CommitSource (ω : Type) := Text → Text → Act ω CommitDiff

namespace CommitTools

variable {ω : Type}

/-- What the tools on commits take. -/
def signature : Signature := ⟨"CommitArgs", some "Arguments shared by the commit tools.", [
  ⟨"sha", "Sha", .text (some 4), some "Commit SHA (full or abbreviated)", none⟩]⟩

/-- The hash among checked arguments. -/
def hash (fields : Json.Fields) : Text :=
  match Json.lookup (Text.ofString "sha") fields with
  | some (.str t) => t
  | _ => []

/-- A file with its patch cut to a limit. -/
def shownFile (limit : Int) (f : ChangedFile) : ChangedFile :=
  { f with patch := Patch.truncate limit f.patch }

/-- The diff of a commit as the model sees it. -/
def shownDiff (limit : Int) (d : CommitDiff) : CommitDiff :=
  { d with files := d.files.map (shownFile limit) }

/-- The tool that shows the diff of a commit. -/
def diffTool (source : CommitSource ω) (repository : Text) (limit : Int) : Tool ω where
  name := "get_commit_diff"
  description := "Get the full diff of a commit: changed files with status, " ++
    "line counts and patch text."
  signature := some signature
  run fields := do
    let d ← source repository (hash fields)
    return .data (shownDiff limit d).toJson

/-- The tool that sums a commit up. -/
def impactTool (source : CommitSource ω) (repository : Text) : Tool ω where
  name := "analyze_commit_impact"
  description := "Summarize the impact of a commit: size, touched areas, and whether " ++
    "tests, docs or dependencies changed."
  signature := some signature
  run fields := do
    let d ← source repository (hash fields)
    return .data (Impact.ofDiff d).toJson

/-- A tool that is registered by decorating the function that runs it. -/
def decorated (t : Tool ω) : Registration ω :=
  .decorating t.name t.description t.signature t.run

/-- The registry of the two tools. -/
def registry (source : CommitSource ω) (repository : Text) (limit : Int) : Registry ω :=
  (Registry.empty.session [decorated (diffTool source repository limit),
    decorated (impactTool source repository)]).2

end CommitTools
end ReleaseNotes
