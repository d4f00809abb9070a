/-
Changelogs.

The notes on a release together with the version that they belong to.

Main statements:
* `Changelog` — the notes and how they came about;
* `Changelog.check` — the same read from a value.
-/
import ReleaseNotes.Dialogue.Turn
import ReleaseNotes.Release.Step

namespace ReleaseNotes

/-- The notes on a release. -/
structure Changelog where
  version : VersionStep
  text : Text
  truncated : Bool
  iterations : Int
  reports : List ToolReport

namespace Changelog

/-- The name of the model in reports. -/
def model : String := "ChangelogOutput"

/-- Notes read from a value. -/
def check : Check Changelog := Check.object model fun fields =>
  (((((Check.required fields "version" VersionStep.check).map Changelog.mk).ap
    (Check.required fields "changelog" Check.text)).ap
    (Check.optional fields "truncated" false Check.boolean)).ap
    (Check.optional fields "iterations" 0 Check.integer)).ap
    (Check.optional fields "tool_calls" [] (Check.list ToolReport.check))

/-- The fields of the notes. -/
def toJson (c : Changelog) : Json :=
  .record [
    ("version", c.version.toJson), ("changelog", .str c.text), ("truncated", .bool c.truncated),
    ("iterations", .int c.iterations), ("tool_calls", .arr (c.reports.map ToolReport.toJson))]

/-- The notes that a dialogue wrote for a version. -/
def ofResult (version : VersionStep) (r : DialogueResult) : Changelog :=
  ⟨version, r.text, r.truncated, r.iterations.val, r.reports⟩

end Changelog
end ReleaseNotes
