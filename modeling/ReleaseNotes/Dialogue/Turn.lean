/-
Turns of a dialogue.

Who says what in the dialogue with the model, what became of each tool call, and how a dialogue
ends.

Main statements:
* `Turn` — one turn;
* `ToolReport` — what became of one tool call;
* `Stage` — the stages that a dialogue passes through;
* `DialogueResult` — the outcome of a dialogue.
-/
import ReleaseNotes.Validation.Check

namespace ReleaseNotes

/-- Who speaks. -/
inductive Role where
  | user
  | assistant
  deriving DecidableEq, Repr

namespace Role

/-- All roles. -/
def all : List Role := [user, assistant]

/-- The word for a role. -/
def word : Role → String
  | user => "user"
  | assistant => "assistant"

end Role

/-- One turn of the dialogue. -/
structure Turn where
  role : Role
  content : Text
  deriving DecidableEq, Repr

namespace Turn

/-- The name of the model in reports. -/
def model : String := "ChatMessage"

/-- A turn read from a value. -/
def check : Check Turn := Check.object model fun fields =>
  ((Check.required fields "role" (Check.literal Role.word Role.all)).map Turn.mk).ap
    (Check.required fields "content" Check.text)

/-- The fields of a turn. -/
def toJson (t : Turn) : Json :=
  .record [("role", .text t.role.word), ("content", .str t.content)]

end Turn

/-- What became of one tool call. -/
structure ToolReport where
  iteration : { n : Nat // 1 ≤ n }
  tool : Text
  arguments : Json.Fields
  ok : Bool
  output : Text

namespace ToolReport

/-- The name of the model in reports. -/
def model : String := "ToolCallRecord"

/-- A report read from a value. -/
def check : Check ToolReport := Check.object model fun fields =>
  (((((Check.required fields "iteration" (Check.naturalFrom 1)).map ToolReport.mk).ap
    (Check.required fields "tool" Check.text)).ap
    (Check.optional fields "arguments" [] Check.dictionary)).ap
    (Check.required fields "ok" Check.boolean)).ap
    (Check.optional fields "output" "" Check.text)

/-- The fields of a report. -/
def toJson (r : ToolReport) : Json :=
  .record [
    ("iteration", .nat r.iteration.val), ("tool", .str r.tool), ("arguments", .obj r.arguments),
    ("ok", .bool r.ok), ("output", .str r.output)]

end ToolReport

/-- The stages that a dialogue passes through. -/
inductive Stage where
  | awaitingResponse
  | parsing
  | dispatchingTools
  | done
  deriving DecidableEq, Repr

namespace Stage

/-- All stages. -/
def all : List Stage := [awaitingResponse, parsing, dispatchingTools, done]

/-- The word for a stage. -/
def word : Stage → String
  | awaitingResponse => "AWAITING_RESPONSE"
  | parsing => "PARSING"
  | dispatchingTools => "DISPATCHING_TOOLS"
  | done => "DONE"

end Stage

/-- The outcome of a dialogue. -/
structure DialogueResult where
  text : Text
  truncated : Bool
  iterations : { n : Nat // 1 ≤ n }
  reports : List ToolReport
  stages : List Stage

namespace DialogueResult

/-- The name of the model in reports. -/
def model : String := "ChangelogResult"

/-- An outcome read from a value. -/
def check : Check DialogueResult := Check.object model fun fields =>
  (((((Check.required fields "text" Check.text).map DialogueResult.mk).ap
    (Check.optional fields "truncated" false Check.boolean)).ap
    (Check.required fields "iterations" (Check.naturalFrom 1))).ap
    (Check.optional fields "tool_calls" [] (Check.list ToolReport.check))).ap
    (Check.optional fields "transitions" [] (Check.list (Check.choice Stage.word Stage.all)))

/-- The fields of an outcome. -/
def toJson (r : DialogueResult) : Json :=
  .record [
    ("text", .str r.text), ("truncated", .bool r.truncated),
    ("iterations", .nat r.iterations.val),
    ("tool_calls", .arr (r.reports.map ToolReport.toJson)),
    ("transitions", .arr (r.stages.map fun s => .text s.word))]

end DialogueResult
end ReleaseNotes
