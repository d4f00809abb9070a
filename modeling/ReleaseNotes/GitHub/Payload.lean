/-
Commits as GitHub tells them.

How the answer on a commit is read.  Whatever stands for nothing in it counts as absent; a value of
the wrong shape is a failure.

Main statements:
* `Payload.get` — a member of an object, absent ones by default;
* `Payload.author`, `Payload.files` — the parts of an answer;
* `CommitDiff.ofPayload` — the commit that an answer tells.
-/
import ReleaseNotes.Release.Commit

namespace ReleaseNotes
namespace Payload

/-- A member of an object; other values have no members. -/
def get (j : Json) (name : String) (default : Json) : Except Failure Json :=
  match j with
  | .obj fields => .ok ((Json.lookup name fields).getD default)
  | j => .error (.misuse (.noMember j.kindName "get"))

/-- The value, or another one if it stands for nothing. -/
def orElse (j : Json) (other : Json) : Json := if j.isVoid then other else j

/-- An object without members. -/
def nothing : Json := .obj []

/-- The author of a commit: the login, or the name in the commit if there is no login. -/
def author (data commit : Json) : Except Failure Json := do
  let account := orElse (← get data "author" .null) nothing
  let login ← get account "login" .null
  if login.isVoid then
    let signature := orElse (← get commit "author" .null) nothing
    get signature "name" (.text "")
  else return login

/-- A member that must be there. -/
def need (j : Json) (name : String) : Except Failure Json :=
  match j with
  | .obj fields => match Json.lookup name fields with
    | some v => .ok v
    | none => .error (.missingKey (.text name))
  | .str _ => .error (.misuse .textIndexedByName)
  | .arr _ => .error (.misuse .listIndexedByName)
  | j => .error (.misuse (.notSubscriptable j.kindName))

/-- A file of a commit. -/
def file (j : Json) : Except Failure ChangedFile := do
  let path ← need j "filename"
  let status ← get j "status" (.text "modified")
  let additions ← get j "additions" (.int 0)
  let deletions ← get j "deletions" (.int 0)
  let patch := orElse (← get j "patch" .null) (.text "")
  (ChangedFile.check (.record [
    ("path", path), ("status", status), ("additions", additions), ("deletions", deletions),
    ("patch", patch)])).orFail ChangedFile.model

/-- The items of a value. -/
def items : Json → Except Failure (List Json)
  | .arr l => .ok l
  | .str t => .ok (t.map fun u => .str [u])
  | .obj fields => .ok (fields.map fun f => .str f.1)
  | j => .error (.misuse (.notIterable j.kindName))

/-- The files of a commit. -/
def files (data : Json) : Except Failure (List ChangedFile) := do
  let l ← items (orElse (← get data "files" .null) (.arr []))
  l.mapM file

end Payload

/-- The commit that an answer tells. -/
def CommitDiff.ofPayload (data : Json) : Except Failure CommitDiff := do
  let commit := Payload.orElse (← Payload.get data "commit" .null) Payload.nothing
  let author ← Payload.author data commit
  let sha ← Payload.need data "sha"
  let message ← Payload.get commit "message" (.text "")
  let files ← Payload.files data
  let fields : Json.Fields :=
    [(Text.ofString "sha", sha), (Text.ofString "message", message),
      (Text.ofString "author", author)]
  let checked := (((Check.required fields "sha" Check.text).map CommitDiff.mk).ap
    (Check.required fields "message" Check.text)).ap
    (Check.required fields "author" Check.text)
  return (← checked.orFail CommitDiff.model) files

end ReleaseNotes
