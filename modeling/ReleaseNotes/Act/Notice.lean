/-
Notices.

What the library tells an observer while it works: one constructor for each kind of notice, and the
record that a log shows of it.

Main statements:
* `Notice` — the notices;
* `LogLevel`, `LogRecord` — a level, and the record of a log;
* `Notice.record` — the record of a notice.
-/
import ReleaseNotes.Dialogue.Turn

namespace ReleaseNotes

/-- How serious a log record is. -/
inductive LogLevel where
  | debug
  | info
  | warning
  | error
  | critical
  deriving DecidableEq, Repr

namespace LogLevel

/-- The word for a level. -/
def word : LogLevel → String
  | debug => "debug"
  | info => "info"
  | warning => "warning"
  | error => "error"
  | critical => "critical"

/-- The number of a level. -/
def severity : LogLevel → Nat
  | debug => 10
  | info => 20
  | warning => 30
  | error => 40
  | critical => 50

/-- All levels. -/
def all : List LogLevel := [debug, info, warning, error, critical]

end LogLevel

/-- A record of a log. -/
structure LogRecord where
  level : LogLevel
  event : Text
  fields : Json.Fields

/-- What the library tells an observer. -/
inductive Notice where
  /-- A dialogue enters a stage. -/
  | entered (stage : Stage) (iteration : Nat)
  /-- A tool call is dispatched. -/
  | dispatched (tool : Text) (iteration : Nat)
  /-- A tool fails while it runs. -/
  | toolBroke (tool : Text) (failure : Failure)
  /-- A tool call comes to nothing. -/
  | callFailed (tool : Text) (failure : Failure)
  /-- An attempt fails and another one follows. -/
  | retrying (attempt : Nat) (wait : Float) (failure : Failure)
  /-- A dialogue is cut off while the model still asks for tools. -/
  | cutOff (iterations : Nat) (pending : List String)
  /-- A dialogue ends. -/
  | finished (iterations calls : Nat) (truncated : Bool)
  /-- The work on a changelog begins. -/
  | started (repository : String) (previous : Option Text) (commits : Nat)
  /-- The work on a changelog fails. -/
  | broke (repository : String) (failure : Failure)
  /-- The work on a changelog ends. -/
  | completed (repository : String) (version : Text) (kind : String) (iterations calls : Nat)
      (truncated : Bool)
  /-- The model replies. -/
  | replied (model : Text) (turns characters : Nat)
  /-- A request is answered. -/
  | served (method path : String) (status : Nat)

namespace Notice

/-- The record that a log shows of a notice. -/
def record : Notice → LogRecord
  | entered stage iteration =>
    ⟨.debug, "orchestrator_state", [("state", .text stage.word), ("iteration", .nat iteration)]⟩
  | dispatched tool iteration =>
    ⟨.info, "tool_dispatched", [("tool", .str tool), ("iteration", .nat iteration)]⟩
  | toolBroke tool failure =>
    ⟨.warning, "tool_failed", [
      ("tool", .str tool), ("error", .str failure.message),
      ("error_type", .text failure.kind.name)]⟩
  | callFailed tool failure =>
    ⟨.warning, "tool_call_failed", [("tool", .str tool), ("error", .str failure.message)]⟩
  | retrying attempt wait failure =>
    ⟨.warning, "call_retrying", [
      ("attempt", .nat attempt), ("wait_seconds", .float wait), ("error", .str failure.message),
      ("error_type", .text failure.kind.name)]⟩
  | cutOff iterations pending =>
    ⟨.warning, "orchestrator_truncated", [
      ("iterations", .nat iterations), ("pending_tools", .arr (pending.map .text))]⟩
  | finished iterations calls truncated =>
    ⟨.info, "orchestrator_done", [
      ("iterations", .nat iterations), ("tool_calls", .nat calls),
      ("truncated", .bool truncated)]⟩
  | started repository previous commits =>
    ⟨.info, "changelog_started", [
      ("repo", .text repository), ("previous_version", previous.elim .null .str),
      ("commits", .nat commits)]⟩
  | broke repository failure =>
    ⟨.error, "changelog_failed", [
      ("repo", .text repository), ("error", .str failure.message), ("exc_info", .bool true)]⟩
  | completed repository version kind iterations calls truncated =>
    ⟨.info, "changelog_complete", [
      ("repo", .text repository), ("version", .str version), ("release_type", .text kind),
      ("iterations", .nat iterations), ("tool_calls", .nat calls),
      ("truncated", .bool truncated)]⟩
  | replied model turns characters =>
    ⟨.debug, "llm_response_received", [
      ("model", .str model), ("turns", .nat turns), ("chars", .nat characters)]⟩
  | served method path status =>
    ⟨.info, "http_request", [
      ("method", .text method), ("path", .text path), ("status", .nat status)]⟩

end Notice
end ReleaseNotes
