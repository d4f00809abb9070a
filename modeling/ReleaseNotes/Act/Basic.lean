/-
Acts.

A computation that deals with the world outside: it may change the world's state, fail, and leave
events behind.  Events are kept in order, also those of a computation that fails.  What a party
outside leaves behind while it is called stands inside, so that it is never taken for an event of
the caller.

Main statements:
* `Event` — what an act leaves behind;
* `Act`, `Outcome` — acts and their outcomes;
* `Act.observed` — an act of a party outside;
* `Act.bind_run` — one act after another: the second runs in the world that the first leaves, and
  only if the first succeeds;
* `Outcome.sleeps`, `Outcome.notices` and their fellows — the events of one kind.
-/
import ReleaseNotes.Act.Notice
import ReleaseNotes.Tool.Call
import ReleaseNotes.Tool.Value

namespace ReleaseNotes

/-- A request to a service on the net. -/
structure WebRequest where
  method : String
  host : String
  target : String
  accept : String
  apiVersion : Option String
  authorization : Option Text
  timeout : Float
  body : Option Json := none

/-- What an act leaves behind. -/
inductive Event where
  /-- The model is asked to go on with a dialogue. -/
  | asked (system : Text) (turns : List Turn)
  /-- The model answers, or fails to. -/
  | answered (reply : Except Failure Json)
  /-- A tool is called for, and what comes of it. -/
  | called (call : ToolCall) (result : Except Failure ToolValue)
  /-- A tool is run. -/
  | ran (tool : Text) (arguments : Json)
  /-- A request is sent. -/
  | requested (request : WebRequest)
  /-- A wait. -/
  | slept (seconds : Float)
  /-- A notice. -/
  | noticed (notice : Notice)
  /-- What a party outside leaves behind while it is called. -/
  | inside (event : Event)

/-- What an act comes to: a value or a failure, the world afterwards, and the events. -/
structure Outcome (ω α : Type) where
  result : Except Failure α
  world : ω
  events : List Event

/-- A computation that deals with a world outside. -/
def Act (ω α : Type) : Type := ω → Outcome ω α

namespace Act

variable {ω α β : Type}

/-- The outcome of an act in a world. -/
def run (act : Act ω α) (w : ω) : Outcome ω α := act w

/-- A value, without any act. -/
protected def pure (a : α) : Act ω α := fun w => ⟨.ok a, w, []⟩

/-- A failure, without any act. -/
def fail (f : Failure) : Act ω α := fun w => ⟨.error f, w, []⟩

/-- One act after another. -/
protected def bind (act : Act ω α) (next : α → Act ω β) : Act ω β := fun w =>
  match act w with
  | ⟨.ok a, w', events⟩ =>
    let o := next a w'
    ⟨o.result, o.world, events ++ o.events⟩
  | ⟨.error f, w', events⟩ => ⟨.error f, w', events⟩

instance : Monad (Act ω) where
  pure := Act.pure
  bind := Act.bind

/-- The value of a computation without acts, or its failure. -/
def of (result : Except Failure α) : Act ω α := fun w => ⟨result, w, []⟩

/-- An event that is left behind. -/
def leave (e : Event) : Act ω Unit := fun w => ⟨.ok (), w, [e]⟩

/-- A notice. -/
def notice (n : Notice) : Act ω Unit := leave (.noticed n)

/-- The act whose failure is met by another act. -/
def rescue (act : Act ω α) (handler : Failure → Act ω α) : Act ω α := fun w =>
  match act w with
  | ⟨.ok a, w', events⟩ => ⟨.ok a, w', events⟩
  | ⟨.error f, w', events⟩ =>
    let o := handler f w'
    ⟨o.result, o.world, events ++ o.events⟩

/-- An act of a party outside, and the event that tells what it comes to. -/
def observed (act : Act ω α) (tell : Except Failure α → Event) : Act ω α := fun w =>
  let o := act w
  ⟨o.result, o.world, o.events.map .inside ++ [tell o.result]⟩

/-! ### Laws -/

@[simp] theorem pure_run (a : α) (w : ω) : (pure a : Act ω α).run w = ⟨.ok a, w, []⟩ := rfl

@[simp] theorem fail_run (f : Failure) (w : ω) :
    (fail f : Act ω α).run w = ⟨.error f, w, []⟩ := rfl

@[simp] theorem leave_run (e : Event) (w : ω) : (leave e : Act ω Unit).run w = ⟨.ok (), w, [e]⟩ :=
  rfl

@[simp] theorem notice_run (n : Notice) (w : ω) :
    (notice n : Act ω Unit).run w = ⟨.ok (), w, [.noticed n]⟩ := rfl

@[simp] theorem of_run (result : Except Failure α) (w : ω) :
    (of result : Act ω α).run w = ⟨result, w, []⟩ := rfl

theorem observed_run (act : Act ω α) (tell : Except Failure α → Event) (w : ω) :
    (act.observed tell).run w =
      ⟨(act.run w).result, (act.run w).world,
        (act.run w).events.map .inside ++ [tell (act.run w).result]⟩ := rfl

/-- One act after another: the second runs only if the first succeeds. -/
theorem bind_run (act : Act ω α) (next : α → Act ω β) (w : ω) :
    (act >>= next).run w =
      match act.run w with
      | ⟨.ok a, w', events⟩ =>
        ⟨((next a).run w').result, ((next a).run w').world, events ++ ((next a).run w').events⟩
      | ⟨.error f, w', events⟩ => ⟨.error f, w', events⟩ := by
  show Act.bind act next w = _
  unfold Act.bind run
  cases act w with
  | mk result w' events => cases result <;> rfl

@[simp] theorem map_run (f : α → β) (act : Act ω α) (w : ω) :
    (f <$> act).run w = ⟨(act.run w).result.map f, (act.run w).world, (act.run w).events⟩ := by
  show Act.bind act (Act.pure ∘ f) w = _
  unfold Act.bind run
  cases act w with
  | mk result w' events => cases result <;> simp [Act.pure, Except.map]

theorem bind_run_ok {act : Act ω α} {w w' : ω} {a : α} {events : List Event}
    (h : act.run w = ⟨.ok a, w', events⟩) (next : α → Act ω β) :
    (act >>= next).run w =
      ⟨((next a).run w').result, ((next a).run w').world, events ++ ((next a).run w').events⟩ := by
  rw [bind_run, h]

theorem bind_run_error {act : Act ω α} {w w' : ω} {f : Failure} {events : List Event}
    (h : act.run w = ⟨.error f, w', events⟩) (next : α → Act ω β) :
    (act >>= next).run w = ⟨.error f, w', events⟩ := by
  rw [bind_run, h]

/-- An act and the handler of its failure: the handler runs in the world that the failure leaves. -/
theorem rescue_run (act : Act ω α) (handler : Failure → Act ω α) (w : ω) :
    (act.rescue handler).run w =
      match act.run w with
      | ⟨.ok a, w', events⟩ => ⟨.ok a, w', events⟩
      | ⟨.error f, w', events⟩ =>
        ⟨((handler f).run w').result, ((handler f).run w').world,
          events ++ ((handler f).run w').events⟩ := by
  show Act.rescue act handler w = _
  unfold rescue run
  cases act w with
  | mk result w' events => cases result <;> rfl

end Act

namespace Event

/-- The wait of an event. -/
def sleep? : Event → Option Float
  | slept seconds => some seconds
  | _ => none

/-- The notice of an event, also of one inside. -/
def notice? : Event → Option Notice
  | noticed n => some n
  | inside e => e.notice?
  | _ => none

/-- The request of an event, also of one inside. -/
def request? : Event → Option WebRequest
  | requested r => some r
  | inside e => e.request?
  | _ => none

/-- The question of an event. -/
def question? : Event → Option (Text × List Turn)
  | asked system turns => some (system, turns)
  | _ => none

end Event

namespace Outcome

variable {ω α : Type}

/-- The waits of an outcome, in order. -/
def sleeps (o : Outcome ω α) : List Float := o.events.filterMap Event.sleep?

/-- The notices of an outcome, in order. -/
def notices (o : Outcome ω α) : List Notice := o.events.filterMap Event.notice?

/-- The requests of an outcome, in order. -/
def requests (o : Outcome ω α) : List WebRequest := o.events.filterMap Event.request?

/-- The questions to the model, in order. -/
def questions (o : Outcome ω α) : List (Text × List Turn) := o.events.filterMap Event.question?

end Outcome
end ReleaseNotes
