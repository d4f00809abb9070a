/-
The dialogue with the model.

The model is asked, its reply is searched for tool calls, the tools are run, and their results are
the next turn; the dialogue ends with the first reply that asks for no tool, or when its iterations
are used up.  Calls that may succeed another time are tried again.

Main statements:
* `Dialogue` — a model, its tools, and the limits;
* `Dialogue.dispatch` — one tool call;
* `Dialogue.listen` — one reply;
* `Dialogue.converse` — the iterations from one on;
* `Dialogue.run` — a whole dialogue.
-/
import ReleaseNotes.Retry.Run
import ReleaseNotes.Settings.Basic
import ReleaseNotes.Tool.Call
import ReleaseNotes.Tool.Registry

namespace ReleaseNotes

/-- Whatever can continue a dialogue.  A reply is a text, as far as the model keeps to it. -/
abbrev Service (ω : Type) := Text → List Turn → Act ω Json

/-- Whatever runs the tools that are called for. -/
abbrev Toolbox (ω : Type) := ToolCall → Act ω ToolValue

instance {ω : Type} : Coe (Registry ω) (Toolbox ω) :=
  ⟨fun r call => r.execute call.tool (.obj call.arguments)⟩

/-- A model, its tools, and the limits of the dialogue. -/
structure Dialogue (ω : Type) where
  service : Service ω
  tools : Toolbox ω
  settings : DialogueSettings

namespace Dialogue

variable {ω : Type}

/-- What a reply or a tool call is retried on. -/
def retryable (f : Failure) : Bool := f.isTransient

/-- A call under the retry policy. -/
def attempt {α : Type} (d : Dialogue ω) (operation : Act ω α) : Act ω α :=
  d.settings.retry.run retryable operation

/-- One attempt to get a reply of the model to the turns so far. -/
def question (d : Dialogue ω) (system : Text) (history : List Turn) : Act ω Json := do
  Act.leave (.asked system history)
  (d.service system history).observed .answered

/-- The reply of the model to the turns so far. -/
def ask (d : Dialogue ω) (system : Text) (history : List Turn) : Act ω Json :=
  d.attempt (d.question system history)

/-- The turn that a reply makes. -/
def replyTurn (reply : Json) : Except Failure Turn :=
  ((Check.text reply).under (.field "content") |>.map (Turn.mk .assistant)).orFail Turn.model

/-- The report on a call. -/
def report (iteration : { n : Nat // 1 ≤ n }) (call : ToolCall) (ok : Bool) (output : Text) :
    ToolReport :=
  ⟨iteration, call.tool, call.arguments, ok, output⟩

/-- Whether a failed call is told to the model instead of ending the dialogue. -/
def isTold (f : Failure) : Bool := f.kind == .unknownTool || f.kind == .toolExecution

/-- What the model is told of a failed call. -/
def failureText (tool : String) (f : Failure) : Text :=
  "tool " ++ tool ++ " failed: " ++ f.message

/-- One attempt of a tool call. -/
def trial (d : Dialogue ω) (call : ToolCall) : Act ω ToolValue :=
  (d.tools call).observed (.called call)

/-- The outcome of a call: its value, or the failure that is told to the model. -/
def perform (d : Dialogue ω) (call : ToolCall) : Act ω (Except Failure ToolValue) :=
  Act.rescue (Except.ok <$> d.attempt (d.trial call)) fun f =>
    if isTold f then do
      Act.notice (.callFailed call.tool f)
      return .error f
    else Act.fail f

/-- One tool call and the report on it. -/
def dispatch (d : Dialogue ω) (iteration : { n : Nat // 1 ≤ n }) (call : ToolCall) :
    Act ω ToolReport := do
  Act.notice (.dispatched call.tool iteration)
  match ← d.perform call with
  | .ok value => Act.of (value.encode.map (report iteration call true))
  | .error f => return report iteration call false (failureText call.tool f)

/-- Tool calls one after another. -/
def dispatchAll (d : Dialogue ω) (iteration : { n : Nat // 1 ≤ n }) :
    List ToolCall → Act ω (List ToolReport)
  | [] => return []
  | call :: rest => do
    let r ← d.dispatch iteration call
    let rs ← d.dispatchAll iteration rest
    return r :: rs

/-- What the model is told of one report. -/
def entry (r : ToolReport) : Text := "### " ++ r.tool ++ "\n" ++ r.output

/-- The turn that tells the model the results of its calls. -/
def resultTurn (reports : List ToolReport) : Turn :=
  ⟨.user, "Tool results:\n\n" ++ Text.joinWith "\n\n" (reports.map entry)⟩

/-- The stages of an iteration that goes on. -/
def wholeRound : List Stage := [.awaitingResponse, .parsing, .dispatchingTools]

/-- The stages of the last iteration. -/
def lastRound : List Stage := [.awaitingResponse, .parsing, .done]

/-- Where a dialogue stands at the begin of an iteration. -/
structure Position where
  iteration : { n : Nat // 1 ≤ n }
  history : List Turn
  reports : List ToolReport
  stages : List Stage

namespace Position

/-- The position of a dialogue that begins. -/
def start (user : Text) : Position := ⟨⟨1, by decide⟩, [⟨.user, user⟩], [], []⟩

/-- The position after an iteration with a reply and the reports on its calls. -/
def next (p : Position) (text : Text) (new : List ToolReport) : Position :=
  ⟨⟨p.iteration + 1, by omega⟩, p.history ++ [⟨.assistant, text⟩, resultTurn new],
    p.reports ++ new, p.stages ++ wholeRound⟩

@[simp] theorem next_iteration (p : Position) (text : Text) (new : List ToolReport) :
    (p.next text new).iteration.val = p.iteration + 1 := rfl

/-- The result of a dialogue that ends with a reply and the calls that it still asks for. -/
def result (p : Position) (text : Text) (pending : List ToolCall) : DialogueResult :=
  ⟨text, !pending.isEmpty, p.iteration, p.reports, p.stages ++ lastRound⟩

end Position

/-- A stage is entered. -/
def enter (stage : Stage) (iteration : Nat) : Act ω Unit := Act.notice (.entered stage iteration)

/-- The next reply of the model, and the calls that it asks for. -/
def listen (d : Dialogue ω) (system : Text) (p : Position) : Act ω (Text × List ToolCall) := do
  enter .awaitingResponse p.iteration
  let reply ← d.ask system p.history
  let turn ← Act.of (replyTurn reply)
  enter .parsing p.iteration
  let calls ← Act.of (ToolCall.all turn.content)
  return (turn.content, calls)

/-- The reports on the calls of a reply. -/
def work (d : Dialogue ω) (p : Position) (calls : List ToolCall) : Act ω (List ToolReport) := do
  enter .dispatchingTools p.iteration
  d.dispatchAll p.iteration calls

/-- The end of a dialogue, with a reply and the calls that it still asks for. -/
def conclude (p : Position) (text : Text) (pending : List ToolCall) : Act ω DialogueResult := do
  enter .done p.iteration
  unless pending.isEmpty do
    Act.notice (.cutOff p.iteration (pending.map ToolCall.tool))
  Act.notice (.finished p.iteration p.reports.length !pending.isEmpty)
  return p.result text pending

/-- The iterations from a position on, with so many left after the first of them. -/
def converse (d : Dialogue ω) (system : Text) : Nat → Position → Act ω DialogueResult
  | 0, p => do
    let (text, calls) ← d.listen system p
    conclude p text calls
  | left + 1, p => do
    let (text, calls) ← d.listen system p
    if calls.isEmpty then conclude p text calls
    else
      let new ← d.work p calls
      converse d system left (p.next text new)

/-- A whole dialogue. -/
def run (d : Dialogue ω) (system user : Text) : Act ω DialogueResult :=
  d.converse system (d.settings.maxIterations.val - 1) (.start user)

end Dialogue
end ReleaseNotes
