/-
Releases.

The data of one release: the repository, the version before it, the commits since, and the language
of its notes.

Main statements:
* `Release` — the data of a release;
* `Release.check` — the same read from a value;
* `Release.kindOf` — the kind of release that the commits ask for;
* `Release.plan` — the version that the release gets.
-/
import ReleaseNotes.Release.Commit
import ReleaseNotes.Release.Directive
import ReleaseNotes.Release.Step
import ReleaseNotes.Text.Word

namespace ReleaseNotes

/-- The data of one release. -/
structure Release where
  repository : String
  previousVersion : Option Text
  kind : Option ReleaseKind
  commits : { l : List Commit // l ≠ [] }
  language : String

namespace Release

/-- The name of the model in reports. -/
def model : String := "ChangelogInput"

/-- The spelling of a repository, as reports show it. -/
def repositoryPattern : String := "^[\\w.-]+/[\\w.-]+$"

/-- Whether the characters are one half of a repository's name. -/
def isNamePart (cs : List Char) : Bool :=
  !cs.isEmpty && cs.all fun c => isWordCharacter c || c == '.' || c == '-'

/-- Whether a text is an owner and a name with a slash between them. -/
def isRepository (s : String) : Bool :=
  match s.toList.splitOn '/' with
  | [owner, name] => isNamePart owner && isNamePart name
  | _ => false

/-- The check of a kind of release. -/
def kindCheck : Check ReleaseKind := Check.choice ReleaseKind.word ReleaseKind.all

/-- A release read from a value. -/
def check : Check Release := Check.object model fun fields =>
  (((((Check.required fields "repo" (Check.stringLike repositoryPattern isRepository)).map
    Release.mk).ap
    (Check.optional fields "previous_version" none (Check.nullable Check.text))).ap
    (Check.optional fields "release_type" none (Check.nullable kindCheck))).ap
    (Check.required fields "commits" (Check.nonEmptyList Commit.check))).ap
    (Check.optional fields "language" "en" (Check.stringOf 2))

/-- The fields of a release. -/
def toJson (r : Release) : Json :=
  .record [
    ("repo", .text r.repository),
    ("previous_version", r.previousVersion.elim .null .str),
    ("release_type", r.kind.elim .null fun k => .text k.word),
    ("commits", .arr (r.commits.val.map Commit.toJson)),
    ("language", .text r.language)]

/-- The kind of release that one commit asks for: a breaking commit asks for a major release unless
its message says otherwise. -/
def kindOfCommit (c : Commit) : Except Failure (Option ReleaseKind) := do
  match ← ReleaseKind.ofMessage c.message with
  | some k => return some k
  | none => return if c.breaking then some .major else none

/-- The kind of a release: the one that is given, or the most severe that a commit asks for. -/
def kindOf (r : Release) : Except Failure ReleaseKind :=
  match r.kind with
  | some k => return k
  | none => do
    let kinds ← r.commits.val.mapM kindOfCommit
    match ReleaseKind.most? kinds with
    | some k => return k
    | none => .error (.noDirective r.commits.val.length)

/-- The version that a release gets. -/
def plan (r : Release) : Except Failure VersionStep := do
  let kind ← r.kindOf
  VersionStep.create (r.previousVersion.map .str) kind

end Release

/-- The question which version follows another. -/
structure VersionQuery where
  previous : Option Text
  kind : ReleaseKind
  deriving DecidableEq, Repr

namespace VersionQuery

/-- The name of the model in reports. -/
def model : String := "NextVersionRequest"

/-- A question read from a value. -/
def check : Check VersionQuery := Check.object model fun fields =>
  ((Check.optional fields "previous" none (Check.nullable Check.text)).map VersionQuery.mk).ap
    (Check.required fields "release_type" Release.kindCheck)

/-- The fields of a question. -/
def toJson (q : VersionQuery) : Json :=
  .record [
    ("previous", q.previous.elim .null .str), ("release_type", .text q.kind.word)]

/-- The answer to a question. -/
def answer (q : VersionQuery) : Except Failure VersionStep :=
  VersionStep.create (q.previous.map .str) q.kind

end VersionQuery
end ReleaseNotes
