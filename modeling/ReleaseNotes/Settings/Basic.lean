/-
Settings.

What can be set: the language model, the limits of a dialogue, and how much of a patch is shown.

Main statements:
* `ModelSettings`, `DialogueSettings`, `Settings` — the settings with their bounds;
* `Settings.standard` — the settings where nothing is set;
* `Settings.check` — the settings read from a value.
-/
import ReleaseNotes.Retry.Policy

namespace ReleaseNotes

/-- The settings of the language model. -/
structure ModelSettings where
  name : Text
  temperature : Float
  maxTokens : Int
  key : Option Text
  timeout : Float

namespace ModelSettings

/-- The name of the model in reports. -/
def model : String := "LLMConfig"

/-- The settings where nothing is set. -/
def standard : ModelSettings := ⟨"gpt-4o", 0.2, 4096, none, 120.0⟩

/-- Settings read from a value. -/
def check : Check ModelSettings := Check.object model fun fields =>
  (((((Check.optional fields "model" standard.name Check.text).map ModelSettings.mk).ap
    (Check.optional fields "temperature" standard.temperature Check.number)).ap
    (Check.optional fields "max_tokens" standard.maxTokens Check.integer)).ap
    (Check.optional fields "api_key" standard.key (Check.nullable Check.text))).ap
    (Check.optional fields "timeout" standard.timeout Check.number)

/-- The fields of the settings. -/
def toJson (s : ModelSettings) : Json :=
  .record [
    ("model", .str s.name), ("temperature", .float s.temperature),
    ("max_tokens", .int s.maxTokens), ("api_key", s.key.elim .null .str),
    ("timeout", .float s.timeout)]

end ModelSettings

/-- The limits of a dialogue. -/
structure DialogueSettings where
  maxIterations : { n : Nat // 1 ≤ n }
  retry : RetryPolicy

namespace DialogueSettings

/-- The name of the model in reports. -/
def model : String := "OrchestratorConfig"

/-- The limits where nothing is set. -/
def standard : DialogueSettings := ⟨⟨5, by decide⟩, .standard⟩

/-- Limits read from a value. -/
def check : Check DialogueSettings := Check.object model fun fields =>
  ((Check.optional fields "max_iterations" standard.maxIterations (Check.naturalFrom 1)).map
    DialogueSettings.mk).ap
    (Check.optional fields "retry" standard.retry RetryPolicy.check)

/-- The fields of the limits. -/
def toJson (s : DialogueSettings) : Json :=
  .record [("max_iterations", .nat s.maxIterations.val), ("retry", s.retry.toJson)]

end DialogueSettings

/-- All settings. -/
structure Settings where
  languageModel : ModelSettings
  dialogue : DialogueSettings
  maxPatch : { n : Nat // 100 ≤ n }

namespace Settings

/-- The name of the model in reports. -/
def model : String := Failure.settingsModel

/-- The settings where nothing is set. -/
def standard : Settings := ⟨.standard, .standard, ⟨4000, by decide⟩⟩

/-- Settings read from a value. -/
def check : Check Settings := Check.object model fun fields =>
  (((Check.optional fields "llm" standard.languageModel ModelSettings.check).map Settings.mk).ap
    (Check.optional fields "orchestrator" standard.dialogue DialogueSettings.check)).ap
    (Check.optional fields "max_patch_chars" standard.maxPatch (Check.naturalFrom 100))

/-- The fields of the settings. -/
def toJson (s : Settings) : Json :=
  .record [
    ("llm", s.languageModel.toJson), ("orchestrator", s.dialogue.toJson),
    ("max_patch_chars", .nat s.maxPatch.val)]

end Settings
end ReleaseNotes
