/-
The models by name.

Every model that a value can be checked against, and what may be done with a value of it: frozen
models refuse any assignment to a field, the others take any value for a field that they have.  What
is computed from the fields cannot be assigned, and names that begin with an underscore are no
fields, so that an assignment to one of them changes nothing that is shown.

Main statements:
* `ModelEntry` — a model with its check;
* `ModelEntry.all`, `ModelEntry.find?` — the models;
* `ModelEntry.assign` — an assignment to a field;
* `ModelEntry.written` — the value as its document shows it.
-/
import ReleaseNotes.Prompt.Basic
import ReleaseNotes.Rehearsal.Tools
import ReleaseNotes.Release.Changelog
import ReleaseNotes.Tool.CommitTools

namespace ReleaseNotes

/-- A model with its check, which gives the fields of a good value and the facts computed from
them. -/
structure ModelEntry where
  name : String
  frozen : Bool := false
  /-- The names of the facts. -/
  facts : List String := []
  /-- The fields that hold floats. -/
  floats : List String := []
  read : Check (Json × List Json)

namespace ModelEntry

variable {α : Type}

/-- The check of a model of which nothing is computed. -/
def fieldsOf (check : Check α) (toJson : α → Json) : Check (Json × List Json) :=
  Check.map (fun a => (toJson a, [])) check

/-- A model of which nothing is computed. -/
def plain (name : String) (check : Check α) (toJson : α → Json) : ModelEntry where
  name := name
  read := fieldsOf check toJson

/-- Whether an argument is a float. -/
def isFloat (a : Argument) : Bool :=
  match a.kind with
  | .number _ => true
  | _ => false

/-- The arguments of a tool. -/
def ofSignature (s : Signature) : ModelEntry where
  name := s.name
  floats := (s.arguments.filter isFloat).map Argument.name
  read := fieldsOf s.check .obj

/-- A version step. -/
def versionStep : ModelEntry where
  name := VersionStep.model
  frozen := true
  read := fieldsOf VersionStep.check VersionStep.toJson

/-- A commit, with its whole message and its hash as it is shown. -/
def commit : ModelEntry where
  name := Commit.model
  facts := ["message", "short_hash"]
  read := Check.map (fun c => (c.toJson, [.str c.message, .text c.shortHash])) Commit.check

/-- A commit with its files, and the lines that it added and deleted. -/
def commitDiff : ModelEntry where
  name := CommitDiff.model
  facts := ["additions", "deletions"]
  read := Check.map (fun d => (d.toJson, [.nat d.additions, .nat d.deletions])) CommitDiff.check

/-- A retry policy. -/
def retryPolicy : ModelEntry where
  name := RetryPolicy.model
  frozen := true
  read := fieldsOf RetryPolicy.check RetryPolicy.toJson

/-- The settings of the language model. -/
def modelSettings : ModelEntry where
  name := ModelSettings.model
  floats := ["temperature", "timeout"]
  read := fieldsOf ModelSettings.check ModelSettings.toJson

/-- All models. -/
def all : List ModelEntry := [
  versionStep,
  commit,
  plain ChangedFile.model ChangedFile.check ChangedFile.toJson,
  commitDiff,
  plain Turn.model Turn.check Turn.toJson,
  plain ToolCall.model ToolCall.check ToolCall.toJson,
  plain ToolReport.model ToolReport.check ToolReport.toJson,
  plain DialogueResult.model DialogueResult.check DialogueResult.toJson,
  plain Release.model Release.check Release.toJson,
  plain Changelog.model Changelog.check Changelog.toJson,
  retryPolicy,
  plain DialogueSettings.model DialogueSettings.check DialogueSettings.toJson,
  modelSettings,
  plain Settings.model Settings.check Settings.toJson,
  plain VersionQuery.model VersionQuery.check VersionQuery.toJson,
  ofSignature CommitTools.signature,
  ofSignature Rehearsal.echoSignature,
  ofSignature Rehearsal.measureSignature]

/-- The model of a name. -/
def find? (name : String) : Option ModelEntry := all.find? fun m => m.name == name

/-- An assignment to a field of a value. -/
def assign (m : ModelEntry) (value : Json) (name : Text) (new : Json) : Except Failure Json :=
  if name.head? = some (.char '_') then .ok value
  else if m.frozen then .error (.invalid m.name [⟨[.field name.shown], .frozen, new⟩])
  else match m.facts.find? fun fact => name.isString fact with
    | some fact => .error (.misuse (.noSetter m.name fact))
    | none => match value with
      | .obj fields =>
        if (Json.lookup name fields).isSome then .ok (.obj (Json.put name new fields))
        else .error (.noField m.name name)
      | j => .ok j

/-- Assignments one after another, each with its outcome, and the value afterwards. -/
def assignAll (m : ModelEntry) (value : Json) :
    List (Text × Json) → List (Option Failure) × Json
  | [] => ([], value)
  | (name, new) :: rest =>
    match m.assign value name new with
    | .ok changed =>
      let (outcomes, final) := m.assignAll changed rest
      (none :: outcomes, final)
    | .error f =>
      let (outcomes, final) := m.assignAll value rest
      (some f :: outcomes, final)

/-- A number as the document of a model shows it in a field that holds floats. -/
def asFloat : Json → Json
  | .int n =>
    let x := Decimal.floatOfInt n
    if x.isInf then .int n else .float x
  | .bool b => .float (if b then 1.0 else 0.0)
  | j => j

/-- The value as its document shows it. -/
def written (m : ModelEntry) : Json → Json
  | .obj fields => .obj (fields.map fun (name, v) =>
      (name, if m.floats.any fun field => name.isString field then asFloat v else v))
  | j => j

end ModelEntry
end ReleaseNotes
