/-
Version steps.

The decision on one release: the version before it, the version of it, and the kind of release that
leads from one to the other.  A step is always a step forward.

Main statements:
* `VersionStep.problem?` — what keeps two versions from being a step forward;
* `VersionStep` — a step, with the proof that nothing does;
* `VersionStep.check` — a step read from a value;
* `VersionStep.create` — the step that a kind of release makes.
-/
import ReleaseNotes.Version.Bump
import ReleaseNotes.Validation.Check

namespace ReleaseNotes

namespace VersionStep

/-- What keeps a version from following the version before it. -/
def problem? (previous : Option Text) (current : Text) : Option Failure :=
  match Version.parse current, previous with
  | .error f, _ => some f
  | .ok _, none => none
  | .ok v, some p =>
    match Version.parse p with
    | .error f => some f
    | .ok w =>
      match v.order w with
      | .error limit => some (.numeral limit)
      | .ok .gt => none
      | .ok _ => some (.notNewer current p)

end VersionStep

/-- The decision on one release. -/
structure VersionStep where
  previous : Option Text
  current : Text
  kind : ReleaseKind
  forward : VersionStep.problem? previous current = none

namespace VersionStep

/-- The name of the model in reports. -/
def model : String := "VersionInfo"

/-- The step between two versions, if it is a step forward. -/
def make (input : Json) (previous : Option Text) (current : Text) (kind : ReleaseKind) :
    Validated VersionStep :=
  match h : problem? previous current with
  | none => .ok ⟨previous, current, kind, h⟩
  | some f => Check.refuse (.rule (Text.shown f.message)) input

/-- A step read from a value. -/
def check : Check VersionStep := fun j =>
  (Check.object model (fun fields =>
    (((Check.optional fields "previous" none (Check.nullable Check.text)).map
      fun p c k => (p, c, k)).ap
      (Check.required fields "current" Check.text)).ap
      (Check.required fields "release_type"
        (Check.choice ReleaseKind.word ReleaseKind.all))) j).andThen
    fun (p, c, k) => make j p c k

/-- The fields of a step. -/
def toJson (s : VersionStep) : Json :=
  .record [
    ("previous", s.previous.elim .null .str),
    ("current", .str s.current),
    ("release_type", .text s.kind.word)]

/-- The step that a kind of release makes from a version, or the first one. -/
def create (previous : Option Json) (kind : ReleaseKind) : Except Failure VersionStep := do
  let current ← Version.next previous kind
  let fields := Json.record [
    ("previous", previous.getD .null), ("current", .text current),
    ("release_type", .text kind.word)]
  (check fields).orFail model

/-- The kind that is given is read first. -/
def createFrom (previous : Option Json) (kind : Json) : Except Failure VersionStep := do
  create previous (← ReleaseKind.read kind)

/-- One release after another: after a step its version is the one before the next step, after a
failure the version before stays. -/
def session (previous : Option Json) : List Json → List (Except Failure VersionStep)
  | [] => []
  | kind :: rest =>
    match createFrom previous kind with
    | .ok step => .ok step :: session (some (.str step.current)) rest
    | .error f => .error f :: session previous rest

end VersionStep
end ReleaseNotes
