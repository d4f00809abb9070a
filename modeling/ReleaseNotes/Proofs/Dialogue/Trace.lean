/-
The trace of a dialogue.

What the events of a dialogue show of it: the stages that it entered, the replies that it received,
and what it did with its tools.  Events inside a call of the model or of a tool are no events of the
dialogue.

Main statements:
* `Outcome.stages`, `Outcome.replies`, `Outcome.toolSteps` — the views;
* `Dialogue.attempt_view` — what a view shows of the attempts of a call, with `Dialogue.ask_view`
  and `Dialogue.attempt_trial_view` for a question and for a tool call;
* `Heard.trace`, `Heard.trace_of_ok` — what is seen of a reply that is heard;
* `Worked.filterMap_eq_nil`, `Worked.filterMap_onward` — the calls of a reply, unseen by a view of
  other things;
* `Heard.replies_onward` — the replies of a dialogue that goes on;
* `Dialogue.Alike`, `Course.filterMap_congr` — two views that show the same of a dialogue.
-/
import ReleaseNotes.Proofs.Dialogue.Course

namespace ReleaseNotes

/-- What a dialogue does with its tools. -/
inductive ToolStep where
  /-- It turns to a call. -/
  | begun (tool : Text) (iteration : Nat)
  /-- It has executed a call. -/
  | executed (call : ToolCall) (result : Except Failure ToolValue)

namespace Event

/-- The stage that a dialogue enters by an event. -/
def stage? : Event → Option Stage
  | noticed (.entered stage _) => some stage
  | _ => none

/-- The reply that a dialogue receives by an event. -/
def reply? : Event → Option Text
  | answered (.ok (.str t)) => some t
  | _ => none

/-- What a dialogue does with its tools by an event. -/
def toolStep? : Event → Option ToolStep
  | noticed (.dispatched tool iteration) => some (.begun tool iteration)
  | called call result => some (.executed call result)
  | _ => none

theorem shallow_question? : Shallow question? := ⟨fun _ => rfl, fun _ _ _ => rfl, fun _ => rfl⟩

theorem shallow_stage? : Shallow stage? := ⟨fun _ => rfl, fun _ _ _ => rfl, fun _ => rfl⟩

theorem shallow_reply? : Shallow reply? := ⟨fun _ => rfl, fun _ _ _ => rfl, fun _ => rfl⟩

theorem shallow_toolStep? : Shallow toolStep? := ⟨fun _ => rfl, fun _ _ _ => rfl, fun _ => rfl⟩

theorem filterMap_cons_eq {β : Type} (view : Event → Option β) (e : Event) (events : List Event) :
    (e :: events).filterMap view = (view e).toList ++ events.filterMap view := by
  cases h : view e <;> simp [h]

end Event

namespace Outcome

variable {ω α : Type}

/-- The stages that a dialogue entered, in order. -/
def stages (o : Outcome ω α) : List Stage := o.events.filterMap Event.stage?

/-- The replies that a dialogue received, in order. -/
def replies (o : Outcome ω α) : List Text := o.events.filterMap Event.reply?

/-- What a dialogue did with its tools, in order. -/
def toolSteps (o : Outcome ω α) : List ToolStep := o.events.filterMap Event.toolStep?

theorem exists_of_map {β : Type} {o : Outcome ω α} {g : α → β} {b : β}
    (h : o.result.toOption.map g = some b) : ∃ a, o.result = .ok a ∧ g a = b := by
  cases hresult : o.result with
  | error f =>
    rw [hresult] at h
    cases h
  | ok a =>
    rw [hresult] at h
    exact ⟨a, rfl, Option.some.inj h⟩

end Outcome

open Dialogue

variable {ω : Type}

namespace Dialogue

variable (d : Dialogue ω)

/-- How often a call may be attempted. -/
def attempts : Nat := d.settings.retry.attempts.val

theorem one_le_attempts : 1 ≤ d.attempts := d.settings.retry.attempts.property

/-- What a view shows of a call under the retry policy, if it shows of an attempt what the attempt
comes to: all attempts but the last fail in a way that another one may mend. -/
theorem attempt_view {α : Type} (operation : Act ω α) (w : ω) :
    ∃ failures : List Failure, failures.length < d.attempts ∧
      (∀ f ∈ failures, f.isTransient = true) ∧
      ∀ (β : Type) (view : Event → Option β) (shown : Except Failure α → List β),
        Event.Shallow view →
        (∀ w, (operation.run w).events.filterMap view = shown (operation.run w).result) →
        ((d.attempt operation).run w).events.filterMap view =
          failures.flatMap (fun f => shown (.error f)) ++
            shown ((d.attempt operation).run w).result := by
  have htried : Tried d.settings.retry retryable operation (d.attempts - 1) 1 w
      ((d.attempt operation).run w) := tried_run w
  obtain ⟨failures, hlength, htransient, hviews⟩ := htried.exists_failures
  have hone := d.one_le_attempts
  exact ⟨failures, by omega, htransient, hviews⟩

/-- What a view shows of a question that is asked until it is answered: every attempt asks the same
question. -/
theorem ask_view (system : Text) (history : List Turn) (w : ω) :
    ∃ failures : List Failure, failures.length < d.attempts ∧
      (∀ f ∈ failures, f.isTransient = true) ∧
      ∀ (β : Type) (view : Event → Option β), Event.Shallow view →
        ((d.ask system history).run w).events.filterMap view =
          failures.flatMap (fun f => (view (.asked system history)).toList ++
            (view (.answered (.error f))).toList) ++
          ((view (.asked system history)).toList ++
            (view (.answered ((d.ask system history).run w).result)).toList) := by
  obtain ⟨failures, hlength, htransient, hviews⟩ := d.attempt_view (d.question system history) w
  refine ⟨failures, hlength, htransient, fun β view hview => ?_⟩
  refine hviews β view (fun result => (view (.asked system history)).toList ++
    (view (.answered result)).toList) hview fun w => ?_
  rw [question_run]
  simp only [List.cons_append, Event.filterMap_cons_eq, List.filterMap_append,
    hview.filterMap_inside, List.filterMap_nil, List.nil_append, List.append_nil]

/-- What a view shows of a tool call: every attempt makes the same call. -/
theorem attempt_trial_view (call : ToolCall) (w : ω) :
    ∃ failures : List Failure, failures.length < d.attempts ∧
      (∀ f ∈ failures, f.isTransient = true) ∧
      ∀ (β : Type) (view : Event → Option β), Event.Shallow view →
        ((d.attempt (d.trial call)).run w).events.filterMap view =
          failures.flatMap (fun f => (view (.called call (.error f))).toList) ++
          (view (.called call ((d.attempt (d.trial call)).run w).result)).toList := by
  obtain ⟨failures, hlength, htransient, hviews⟩ := d.attempt_view (d.trial call) w
  refine ⟨failures, hlength, htransient, fun β view hview => ?_⟩
  refine hviews β view (fun result => (view (.called call result)).toList) hview fun w => ?_
  rw [trial_run]
  simp only [Event.filterMap_cons_eq, List.filterMap_append, hview.filterMap_inside,
    List.filterMap_nil, List.nil_append, List.append_nil]

/-- What is seen of a question that is asked until it is answered. -/
theorem ask_trace {system : Text} {history : List Turn} {w w' : ω} {result : Except Failure Json}
    {events : List Event} (h : (d.ask system history).run w = ⟨result, w', events⟩) :
    events.filterMap Event.stage? = [] ∧ events.filterMap Event.toolStep? = [] ∧
      events.filterMap Event.reply? = (Event.reply? (.answered result)).toList ∧
      ∃ k, k ≤ d.attempts ∧
        events.filterMap Event.question? = List.replicate k (system, history) := by
  obtain ⟨failures, hlength, -, hview⟩ := d.ask_view system history w
  simp only [h] at hview
  refine ⟨?_, ?_, ?_, failures.length + 1, hlength, ?_⟩
  · rw [hview _ _ Event.shallow_stage?]
    simp [Event.stage?]
  · rw [hview _ _ Event.shallow_toolStep?]
    simp [Event.toolStep?]
  · rw [hview _ _ Event.shallow_reply?]
    simp [Event.reply?]
  · rw [hview _ _ Event.shallow_question?]
    have hmap : (failures.map fun _ => (system, history)) =
        List.replicate failures.length (system, history) := List.map_const' ..
    simp [Event.question?, ← List.map_eq_flatMap, hmap, List.replicate_succ']

end Dialogue

/-- What is seen of a reply, heard or not. -/
theorem Heard.trace {d : Dialogue ω} {system : Text} {p : Position} {w w' : ω}
    {result : Except Failure (Text × List ToolCall)} {events : List Event}
    (h : Heard d system p w ⟨result, w', events⟩) :
    events.filterMap Event.stage? <+: [.awaitingResponse, .parsing] ∧
      events.filterMap Event.toolStep? = [] ∧
      ∃ k, k ≤ d.attempts ∧
        events.filterMap Event.question? = List.replicate k (system, p.history) := by
  cases h with
  | unanswered asked | untold asked _ | unread asked _ _ | read asked _ _ =>
    obtain ⟨hstages, hsteps, -, k, hk, hquestions⟩ := d.ask_trace asked
    simp only [List.cons_append, Event.filterMap_cons_eq, List.filterMap_append,
      List.filterMap_nil, hstages, hsteps, hquestions]
    refine ⟨?_, rfl, k, hk, ?_⟩
    · simp [Event.stage?]
    · simp [Event.question?]

/-- What is seen of a reply that is heard. -/
theorem Heard.trace_of_ok {d : Dialogue ω} {system : Text} {p : Position} {w w' : ω}
    {text : Text} {calls : List ToolCall} {events : List Event}
    (h : Heard d system p w ⟨.ok (text, calls), w', events⟩) :
    events.filterMap Event.stage? = [.awaitingResponse, .parsing] ∧
      events.filterMap Event.reply? = [text] ∧ ToolCall.all text = .ok calls := by
  cases h with
  | read asked _ calls_eq =>
    obtain ⟨hstages, -, hreplies, -⟩ := d.ask_trace asked
    simp only [List.cons_append, Event.filterMap_cons_eq, List.filterMap_append,
      List.filterMap_nil, hstages, hreplies]
    exact ⟨rfl, rfl, calls_eq⟩

/-- A view that shows nothing of tool calls either. -/
structure Event.Aloof {β : Type} (view : Event → Option β) : Prop extends Event.Shallow view where
  called : ∀ call result, view (.called call result) = none
  dispatched : ∀ tool iteration, view (.noticed (.dispatched tool iteration)) = none
  callFailed : ∀ tool f, view (.noticed (.callFailed tool f)) = none

theorem Event.aloof_question? : Aloof question? :=
  ⟨shallow_question?, fun _ _ => rfl, fun _ _ => rfl, fun _ _ => rfl⟩

theorem Event.aloof_stage? : Aloof stage? :=
  ⟨shallow_stage?, fun _ _ => rfl, fun _ _ => rfl, fun _ _ => rfl⟩

theorem Event.aloof_reply? : Aloof reply? :=
  ⟨shallow_reply?, fun _ _ => rfl, fun _ _ => rfl, fun _ _ => rfl⟩

theorem Dispatched.filterMap_eq_nil {d : Dialogue ω} {iteration : { n : Nat // 1 ≤ n }}
    {call : ToolCall} {w : ω} {o : Outcome ω ToolReport} {β : Type} {view : Event → Option β}
    (hview : Event.Aloof view) (h : Dispatched d iteration call w o) :
    o.events.filterMap view = [] := by
  obtain ⟨failures, -, -, hshown⟩ := d.attempt_trial_view call w
  have hnil : ((d.attempt (d.trial call)).run w).events.filterMap view = [] := by
    rw [hshown β view hview.toShallow]
    simp [hview.called]
  cases h with
  | returned tried _ | unwritten tried _ | told tried _ | broken tried _ =>
    rw [tried] at hnil
    simp only [List.cons_append, Event.filterMap_cons_eq, List.filterMap_append, List.filterMap_nil,
      hnil, hview.dispatched, hview.callFailed, Option.toList_none, List.append_nil]

/-- The calls of a reply leave nothing for a view that shows nothing of tool calls. -/
theorem Worked.filterMap_eq_nil {d : Dialogue ω} {iteration : { n : Nat // 1 ≤ n }}
    {calls : List ToolCall} {w : ω} {o : Outcome ω (List ToolReport)} {β : Type}
    {view : Event → Option β} (hview : Event.Aloof view) (h : Worked d iteration calls w o) :
    o.events.filterMap view = [] := by
  induction h with
  | none => rfl
  | broken first => exact first.filterMap_eq_nil hview
  | reported first _ ih =>
    have hfirst := first.filterMap_eq_nil hview
    simp only [List.filterMap_append, ih, List.append_nil]
    exact hfirst

/-- What such a view shows of a dialogue that goes on after the calls of a reply. -/
theorem Worked.filterMap_onward {d : Dialogue ω} {iteration : { n : Nat // 1 ≤ n }}
    {calls : List ToolCall} {w : ω} {o : Outcome ω (List ToolReport)} {β : Type}
    {view : Event → Option β} (hview : Event.Aloof view) (h : Worked d iteration calls w o)
    (before rest : List Event) (e : Event) :
    (before ++ e :: (o.events ++ rest)).filterMap view =
      before.filterMap view ++ ((view e).toList ++ rest.filterMap view) := by
  rw [List.filterMap_append, Event.filterMap_cons_eq, List.filterMap_append,
    h.filterMap_eq_nil hview, List.nil_append]

/-- The replies of a dialogue that goes on after an iteration: the reply of the iteration stands
before the others. -/
theorem Heard.replies_onward {d : Dialogue ω} {system : Text} {p : Position} {w w' : ω}
    {text : Text} {calls : List ToolCall} {events : List Event} {o : Outcome ω (List ToolReport)}
    (heard : Heard d system p w ⟨.ok (text, calls), w', events⟩)
    (worked : Worked d p.iteration calls w' o) (rest : List Event) :
    (events ++ .noticed (.entered .dispatchingTools p.iteration) :: (o.events ++ rest)).filterMap
      Event.reply? = text :: rest.filterMap Event.reply? := by
  obtain ⟨-, hreply, -⟩ := heard.trace_of_ok
  rw [worked.filterMap_onward Event.aloof_reply?, hreply]
  rfl

/-! ### Two views of a dialogue -/

/-- Two views that show the same of whatever a dialogue leaves behind: of its questions and calls,
of what the model and the tools leave behind inside, of the pauses between attempts, and of its own
notices. -/
structure Dialogue.Alike (d : Dialogue ω) {β : Type} (view view' : Event → Option β) : Prop where
  asked : ∀ system turns, view (.asked system turns) = view' (.asked system turns)
  answered : ∀ reply, view (.answered reply) = view' (.answered reply)
  called : ∀ call result, view (.called call result) = view' (.called call result)
  service : ∀ system turns w,
    ((d.service system turns).run w).events.filterMap (view ∘ .inside) =
      ((d.service system turns).run w).events.filterMap (view' ∘ .inside)
  tools : ∀ call w, ((d.tools call).run w).events.filterMap (view ∘ .inside) =
    ((d.tools call).run w).events.filterMap (view' ∘ .inside)
  pause : ∀ n f, (d.settings.retry.pause n f).filterMap view =
    (d.settings.retry.pause n f).filterMap view'
  entered : ∀ stage n, view (.noticed (.entered stage n)) = view' (.noticed (.entered stage n))
  dispatched : ∀ tool n,
    view (.noticed (.dispatched tool n)) = view' (.noticed (.dispatched tool n))
  callFailed : ∀ tool f,
    view (.noticed (.callFailed tool f)) = view' (.noticed (.callFailed tool f))
  cutOff : ∀ n pending, view (.noticed (.cutOff n pending)) = view' (.noticed (.cutOff n pending))
  finished : ∀ n calls truncated, view (.noticed (.finished n calls truncated)) =
    view' (.noticed (.finished n calls truncated))

section

variable {d : Dialogue ω} {β : Type} {view view' : Event → Option β}

theorem Dialogue.Alike.question (hviews : d.Alike view view') (system : Text) (history : List Turn)
    (w : ω) : ((d.question system history).run w).events.filterMap view =
      ((d.question system history).run w).events.filterMap view' := by
  simp only [d.question_run, List.cons_append, Event.filterMap_cons_eq, List.filterMap_append,
    List.filterMap_map, List.filterMap_nil, hviews.asked, hviews.service, hviews.answered]

theorem Dialogue.Alike.trial (hviews : d.Alike view view') (call : ToolCall) (w : ω) :
    ((d.trial call).run w).events.filterMap view =
      ((d.trial call).run w).events.filterMap view' := by
  simp only [d.trial_run, Event.filterMap_cons_eq, List.filterMap_append, List.filterMap_map,
    List.filterMap_nil, hviews.tools, hviews.called]

theorem Heard.filterMap_congr (hviews : d.Alike view view') {system : Text} {p : Position} {w : ω}
    {o : Outcome ω (Text × List ToolCall)} (h : Heard d system p w o) :
    o.events.filterMap view = o.events.filterMap view' := by
  have htried : Tried d.settings.retry retryable (d.question system p.history) (d.attempts - 1) 1 w
      ((d.ask system p.history).run w) := tried_run w
  have hask := htried.filterMap_congr (hviews.question system p.history) hviews.pause
  cases h with
  | unanswered asked | untold asked _ | unread asked _ _ | read asked _ _ =>
    rw [asked] at hask
    simp only [List.cons_append, Event.filterMap_cons_eq, List.filterMap_append, List.filterMap_nil,
      hviews.entered, hask]

theorem Dispatched.filterMap_congr (hviews : d.Alike view view') {iteration : { n : Nat // 1 ≤ n }}
    {call : ToolCall} {w : ω} {o : Outcome ω ToolReport} (h : Dispatched d iteration call w o) :
    o.events.filterMap view = o.events.filterMap view' := by
  have htried : Tried d.settings.retry retryable (d.trial call) (d.attempts - 1) 1 w
      ((d.attempt (d.trial call)).run w) := tried_run w
  have hattempt := htried.filterMap_congr (hviews.trial call) hviews.pause
  cases h with
  | returned tried _ | unwritten tried _ | told tried _ | broken tried _ =>
    rw [tried] at hattempt
    simp only [List.cons_append, Event.filterMap_cons_eq, List.filterMap_append, List.filterMap_nil,
      hviews.dispatched, hviews.callFailed, hattempt]

theorem Worked.filterMap_congr (hviews : d.Alike view view') {iteration : { n : Nat // 1 ≤ n }}
    {calls : List ToolCall} {w : ω} {o : Outcome ω (List ToolReport)}
    (h : Worked d iteration calls w o) :
    o.events.filterMap view = o.events.filterMap view' := by
  induction h with
  | none => rfl
  | broken first => exact first.filterMap_congr hviews
  | reported first _ ih =>
    have hfirst := first.filterMap_congr hviews
    rw [List.filterMap_append, List.filterMap_append, ih]
    exact congrArg (· ++ _) hfirst

/-- Two such views show the same of a whole dialogue, however it ends. -/
theorem Course.filterMap_congr (hviews : d.Alike view view') {system : Text} {left : Nat}
    {p : Position} {w : ω} {o : Outcome ω DialogueResult} (h : Course d system left p w o) :
    o.events.filterMap view = o.events.filterMap view' := by
  -- each part of an iteration shows the same, and the rest does by induction
  induction h with
  | unheard heard => exact heard.filterMap_congr hviews
  | @concluded left p w w' text calls events heard last =>
    have hheard := heard.filterMap_congr hviews
    have hclosing : (p.closing calls).filterMap view = (p.closing calls).filterMap view' := by
      cases calls <;> simp only [Position.closing, List.isEmpty_nil, List.isEmpty_cons, if_true,
        Bool.false_eq_true, if_false, List.cons_append, List.nil_append, Event.filterMap_cons_eq,
        List.filterMap_nil, hviews.entered, hviews.cutOff, hviews.finished]
    rw [List.filterMap_append, List.filterMap_append, hclosing]
    exact congrArg (· ++ _) hheard
  | broken heard asks worked =>
    have hheard := heard.filterMap_congr hviews
    have hwork := worked.filterMap_congr hviews
    simp only [List.filterMap_append, Event.filterMap_cons_eq] at hheard hwork ⊢
    rw [hheard, hwork, hviews.entered]
  | onward heard asks worked rest ih =>
    have hheard := heard.filterMap_congr hviews
    have hwork := worked.filterMap_congr hviews
    simp only [List.filterMap_append, Event.filterMap_cons_eq] at hheard hwork ⊢
    rw [hheard, hwork, hviews.entered, ih]

end

end ReleaseNotes
