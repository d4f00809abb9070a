/-
Commits of a release.

What a classified commit says, and what the full commit changed.

Main statements:
* `Commit` — a commit of the release window;
* `ChangedFile`, `CommitDiff` — a commit with the files that it changed;
* `Commit.check`, `ChangedFile.check`, `CommitDiff.check` — the same read from a value.
-/
import ReleaseNotes.Validation.Check

namespace ReleaseNotes

/-- A commit of the release window. -/
structure Commit where
  hash : String
  subject : Text
  body : Text
  author : Text
  category : Text
  breaking : Bool
  deriving DecidableEq, Repr

namespace Commit

/-- The name of the model in reports. -/
def model : String := "CommitRecord"

/-- A commit read from a value. -/
def check : Check Commit := Check.object model fun fields =>
  ((((((Check.required fields "hash" (Check.stringOf 1)).map Commit.mk).ap
    (Check.required fields "subject" Check.text)).ap
    (Check.optional fields "body" "" Check.text)).ap
    (Check.required fields "author" Check.text)).ap
    (Check.optional fields "type" "other" Check.text)).ap
    (Check.optional fields "breaking" false Check.boolean)

/-- The fields of a commit. -/
def toJson (c : Commit) : Json :=
  .record [
    ("hash", .text c.hash), ("subject", .str c.subject), ("body", .str c.body),
    ("author", .str c.author), ("type", .str c.category), ("breaking", .bool c.breaking)]

/-- The whole message of a commit. -/
def message (c : Commit) : Text :=
  if c.body = [] then c.subject else c.subject ++ "\n\n" ++ c.body

/-- How many characters of a hash are shown. -/
def shortLength : Nat := 7

/-- The hash as it is shown. -/
def shortHash (c : Commit) : String := String.ofList (c.hash.toList.take shortLength)

end Commit

/-- A file that a commit changed. -/
structure ChangedFile where
  path : Text
  status : Text
  additions : Nat
  deletions : Nat
  patch : Text
  deriving DecidableEq, Repr

namespace ChangedFile

/-- The name of the model in reports. -/
def model : String := "FileChange"

/-- A file read from a value. -/
def check : Check ChangedFile := Check.object model fun fields =>
  (((((Check.required fields "path" Check.text).map ChangedFile.mk).ap
    (Check.optional fields "status" "modified" Check.text)).ap
    (Check.optional fields "additions" 0 Check.natural)).ap
    (Check.optional fields "deletions" 0 Check.natural)).ap
    (Check.optional fields "patch" "" Check.text)

/-- The fields of a file. -/
def toJson (f : ChangedFile) : Json :=
  .record [
    ("path", .str f.path), ("status", .str f.status), ("additions", .nat f.additions),
    ("deletions", .nat f.deletions), ("patch", .str f.patch)]

end ChangedFile

/-- A commit with the files that it changed. -/
structure CommitDiff where
  sha : Text
  message : Text
  author : Text
  files : List ChangedFile
  deriving DecidableEq, Repr

namespace CommitDiff

/-- The name of the model in reports. -/
def model : String := "CommitDetails"

/-- A commit with its files read from a value. -/
def check : Check CommitDiff := Check.object model fun fields =>
  ((((Check.required fields "sha" Check.text).map CommitDiff.mk).ap
    (Check.optional fields "message" "" Check.text)).ap
    (Check.optional fields "author" "" Check.text)).ap
    (Check.optional fields "files" [] (Check.list ChangedFile.check))

/-- The fields of a commit with its files. -/
def toJson (d : CommitDiff) : Json :=
  .record [
    ("sha", .str d.sha), ("message", .str d.message), ("author", .str d.author),
    ("files", .arr (d.files.map ChangedFile.toJson))]

/-- The lines that a commit added. -/
def additions (d : CommitDiff) : Nat := d.files.foldr (fun f n => f.additions + n) 0

/-- The lines that a commit deleted. -/
def deletions (d : CommitDiff) : Nat := d.files.foldr (fun f n => f.deletions + n) 0

end CommitDiff
end ReleaseNotes
