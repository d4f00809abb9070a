/-
Rehearsals.

A world in which everything outside follows a script: replies of the model, answers from the net,
and tools that fail a set number of times.  The last item of a script is repeated for ever.

Main statements:
* `Rehearsal` — what is left of the scripts;
* `Rehearsal.service` — the model that follows its script.
-/
import ReleaseNotes.Dialogue.Run

namespace ReleaseNotes

/-- A failure reported under a name. -/
def Failure.ofReport (name : String) (message : Json) : Failure :=
  match FailureKind.ofName name with
  | .invalidVersion => .invalidVersion message
  | .unknownTool => .unknownTool message.spoken
  | .toolExecution => .toolFailed "inner" message.spoken none
  | .transient => .transient message.spoken none
  | .key => .missingKey message
  | kind => .outside kind message.spoken

/-- An answer from the net, whose body is a string, or the failure of the way there. -/
inductive WebAnswer where
  | response (status : Nat) (headers : List (String × String)) (body : String)
  | failure (kind : String) (message : Text)

/-- What is left of the scripts. -/
structure Rehearsal where
  replies : List (Except Failure Json) := []
  github : List WebAnswer := []
  languageModel : List WebAnswer := []
  calls : List (Text × Nat) := []

namespace Rehearsal

/-- The next item of a script, and what is left of it. -/
def nextOf {α : Type} : List α → Option α × List α
  | [] => (none, [])
  | [a] => (some a, [a])
  | a :: rest => (some a, rest)

/-- The outcome that an operation has in its next attempt. -/
def outcome : Act (List (Except Failure Json)) Json := fun script =>
  match nextOf script with
  | (some result, left) => ⟨result, left, []⟩
  | (none, left) => ⟨.ok .null, left, []⟩

/-- The model that follows its script. -/
def service : Service Rehearsal := fun _ _ w =>
  let o := outcome w.replies
  ⟨o.result, { w with replies := o.world }, o.events⟩

/-- One more call of a tool; the number of its calls so far. -/
def countCall (tool : Text) : Act Rehearsal Nat := fun w =>
  let n := ((w.calls.lookup tool).getD 0) + 1
  ⟨.ok n, { w with calls := (tool, n) :: w.calls.filter fun c => c.1 != tool }, []⟩

end Rehearsal
end ReleaseNotes
