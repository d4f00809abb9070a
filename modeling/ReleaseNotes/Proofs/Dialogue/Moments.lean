/-
The moments of a dialogue.

A dialogue asks the model and turns to tool calls, one after another, each in some world.  What it
does in such a moment is a part of the whole: a failure there is the failure of the dialogue and the
end of it, and otherwise the dialogue goes on with what came of it.

Main statements:
* `Comes` — the moments that a dialogue comes to, each with its world;
* `Comes.ask_error`, `Comes.ask_ok` — a moment in which the model is asked;
* `Comes.dispatch_error`, `Comes.dispatch_ok` — a moment in which a call is turned to.
-/
import ReleaseNotes.Proofs.Dialogue.Endings

namespace ReleaseNotes

open Dialogue

variable {ω α β : Type} {d : Dialogue ω} {system : Text}

/-- What a dialogue is about to do. -/
inductive Moment where
  /-- It asks the model to go on from a position. -/
  | asking (p : Position)
  /-- It turns to a call of an iteration. -/
  | dispatching (iteration : { n : Nat // 1 ≤ n }) (call : ToolCall)

/-- The moments that a dialogue comes to from a position on with so many iterations left, each with
the world in which it comes to it. -/
inductive Comes (d : Dialogue ω) (system : Text) :
    Nat → Position → ω → Moment → ω → Prop
  | asks {left : Nat} {p : Position} {w : ω} : Comes d system left p w (.asking p) w
  /-- The reply is heard, and the calls before this one are reported on. -/
  | dispatches {left : Nat} {p : Position} {w w₁ w₂ : ω} {text : Text} {earlier rest : List ToolCall}
      {call : ToolCall} {events₁ events₂ : List Event} {done : List ToolReport}
      (heard : Heard d system p w ⟨.ok (text, earlier ++ call :: rest), w₁, events₁⟩)
      (worked : Worked d p.iteration earlier w₁ ⟨.ok done, w₂, events₂⟩) :
      Comes d system (left + 1) p w (.dispatching p.iteration call) w₂
  /-- All calls of the reply are reported on, and the moment is one of a later iteration. -/
  | later {left : Nat} {p : Position} {w w₁ w₂ w₃ : ω} {text : Text} {calls : List ToolCall}
      {events₁ events₂ : List Event} {new : List ToolReport} {m : Moment}
      (heard : Heard d system p w ⟨.ok (text, calls), w₁, events₁⟩) (asks : calls ≠ [])
      (worked : Worked d p.iteration calls w₁ ⟨.ok new, w₂, events₂⟩)
      (rest : Comes d system left (p.next text new) w₂ m w₃) :
      Comes d system (left + 1) p w m w₃

/-- An outcome with other events before its own. -/
def Outcome.after (o : Outcome ω α) (before : List Event) : Outcome ω α :=
  ⟨o.result, o.world, before ++ o.events⟩

@[simp] theorem Outcome.after_events (o : Outcome ω α) (before : List Event) :
    (o.after before).events = before ++ o.events := rfl

/-- A part ends the whole with its failure: nothing follows it. -/
structure Outcome.EndsWith (whole : Outcome ω α) (part : Outcome ω β) (f : Failure) : Prop where
  part_result : part.result = .error f
  result : whole.result = .error f
  events : ∃ before, whole.events = before ++ part.events

/-- A dialogue goes on after a part with the report that the part comes to: something follows, and
a result of the dialogue holds the report. -/
structure Outcome.GoesOnWith (whole : Outcome ω DialogueResult) (part : Outcome ω ToolReport)
    (r : ToolReport) : Prop where
  part_result : part.result = .ok r
  events : ∃ before after, after ≠ [] ∧ whole.events = before ++ part.events ++ after
  kept : ∀ result, whole.result = .ok result → r ∈ result.reports

theorem Act.bind_run_after {act : Act ω α} {w w' : ω} {a : α} {events : List Event}
    (h : act.run w = ⟨.ok a, w', events⟩) (next : α → Act ω β) :
    (act >>= next).run w = ((next a).run w').after events := bind_run_ok h next

/-! ### A moment is a part of the whole -/

namespace Dialogue

/-- The rest of a dialogue behind the report on a call: the calls after it, and the iterations. -/
def resume (d : Dialogue ω) (system : Text) (left : Nat) (p : Position) (text : Text)
    (done : List ToolReport) (rest : List ToolCall) (r : ToolReport) : Act ω DialogueResult := do
  let others ← d.dispatchAll p.iteration rest
  d.converse system left (p.next text (done ++ r :: others))

theorem listen_events_ne_nil (p : Position) (w : ω) : ((d.listen system p).run w).events ≠ [] := by
  cases hrun : (d.listen system p).run w with
  | mk result w' events =>
    have hheard := d.heard_listen system p w
    rw [hrun] at hheard
    cases hheard <;> simp

theorem events_ne_nil_of_bind {act : Act ω α} {next : α → Act ω β} {w : ω}
    (h : (act.run w).events ≠ []) : ((act >>= next).run w).events ≠ [] := by
  rw [Act.bind_run]
  rcases hrun : act.run w with ⟨result, w', events⟩
  rw [hrun] at h
  cases result with
  | ok a => simp_all
  | error f => exact h

/-- A dialogue always does something more. -/
theorem converse_events_ne_nil (left : Nat) (p : Position) (w : ω) :
    ((d.converse system left p).run w).events ≠ [] := by
  cases left with
  | zero => exact events_ne_nil_of_bind (listen_events_ne_nil p w)
  | succ left => exact events_ne_nil_of_bind (listen_events_ne_nil p w)

/-- The rest of a dialogue behind a report always does something more. -/
theorem resume_events_ne_nil (left : Nat) (p : Position) (text : Text) (done : List ToolReport)
    (rest : List ToolCall) (r : ToolReport) (w : ω) :
    ((d.resume system left p text done rest r).run w).events ≠ [] := by
  cases rest with
  | nil =>
    rw [resume, Act.bind_run_after (rfl : (d.dispatchAll p.iteration []).run w = ⟨.ok [], w, []⟩)]
    exact converse_events_ne_nil _ _ w
  | cons call rest =>
    refine events_ne_nil_of_bind (events_ne_nil_of_bind ?_)
    rw [dispatch]
    exact events_ne_nil_of_bind (by simp)

/-- The rest of a dialogue behind a report keeps the report. -/
theorem mem_reports_of_resume {left : Nat} {p : Position} {text : Text} {done : List ToolReport}
    {rest : List ToolCall} {r : ToolReport} {w : ω} {result : DialogueResult}
    (h : ((d.resume system left p text done rest r).run w).result = .ok result) :
    r ∈ result.reports := by
  rw [resume, Act.bind_run] at h
  rcases hothers : (d.dispatchAll p.iteration rest).run w with ⟨others, w', events⟩
  rw [hothers] at h
  cases others with
  | error f => cases h
  | ok others =>
    obtain ⟨new, hreports, -⟩ := (d.course_converse system left _ w').reports_of_ok h
    rw [hreports]
    simp [Position.next]

/-- Calls that are worked through from one on, when those before it are reported on. -/
theorem dispatchAll_append_run {iteration : { n : Nat // 1 ≤ n }} {earlier : List ToolCall} {w : ω}
    {o : Outcome ω (List ToolReport)} (h : Worked d iteration earlier w o)
    {done : List ToolReport} (hdone : o.result = .ok done) (call : ToolCall)
    (rest : List ToolCall) :
    (d.dispatchAll iteration (earlier ++ call :: rest)).run w =
      ((do
        let r ← d.dispatch iteration call
        let others ← d.dispatchAll iteration rest
        return done ++ r :: others).run o.world).after o.events := by
  induction h generalizing done with
  | none =>
    cases hdone
    rfl
  | broken _ => cases hdone
  | @reported call' rest' w w' r' events o first others ih =>
    obtain ⟨done', hdone', rfl⟩ : ∃ done', o.result = .ok done' ∧ done = r' :: done' := by
      cases hresult : o.result with
      | error f =>
        rw [hresult] at hdone
        cases hdone
      | ok done' =>
        rw [hresult] at hdone
        cases hdone
        exact ⟨done', rfl, rfl⟩
    rw [List.cons_append, dispatchAll, Act.bind_run_after first.dispatch_run, Act.bind_run,
      ih hdone']
    -- the report in front is put before what the others come to
    simp only [Act.bind_run, Outcome.after]
    rcases (d.dispatch iteration call).run o.world with ⟨result, w₁, events₁⟩
    cases result with
    | error f => simp
    | ok r =>
      dsimp only
      rcases (d.dispatchAll iteration rest).run w₁ with ⟨result, w₂, events₂⟩
      cases result <;> simp

end Dialogue

/-- A view that shows neither that a call is turned to nor that it comes to nothing shows of a call
what it shows of its attempts. -/
theorem Dialogue.filterMap_dispatch {γ : Type} {view : Event → Option γ}
    (hdispatched : ∀ tool n, view (.noticed (.dispatched tool n)) = none)
    (hfailed : ∀ tool f, view (.noticed (.callFailed tool f)) = none)
    (iteration : { n : Nat // 1 ≤ n }) (call : ToolCall) (w : ω) :
    ((d.dispatch iteration call).run w).events.filterMap view =
      ((d.attempt (d.trial call)).run w).events.filterMap view := by
  have hdispatch := d.dispatched_dispatch iteration call w
  generalize (d.dispatch iteration call).run w = o at hdispatch
  cases hdispatch with
  | returned tried _ | unwritten tried _ | told tried _ | broken tried _ =>
    rw [tried]
    simp [hdispatched, hfailed]

/-- From a moment on in which the model is asked, the dialogue goes as one from that position. -/
theorem Comes.asking_run {left : Nat} {p q : Position} {w w₁ : ω}
    (h : Comes d system left p w (.asking q) w₁) :
    ∃ before left', (d.converse system left p).run w =
      ((d.converse system left' q).run w₁).after before := by
  generalize hm : Moment.asking q = m at h
  induction h with
  | @asks left p w =>
    cases hm
    exact ⟨[], left, rfl⟩
  | dispatches _ _ => cases hm
  | @later left p w w₁ w₂ w₃ text calls events₁ events₂ new m heard asks worked rest ih =>
    obtain ⟨before, left', hrun⟩ := ih hm
    refine ⟨events₁ ++ .noticed (.entered .dispatchingTools p.iteration) :: events₂ ++ before,
      left', ?_⟩
    have hcourse := Course.onward heard asks worked
      (d.course_converse system left (p.next text new) w₂)
    rw [hcourse.converse_run, hrun]
    simp [Outcome.after]

/-- From a moment on in which a call is turned to, the dialogue is the call and the rest. -/
theorem Comes.dispatching_run {left : Nat} {p : Position} {w w₁ : ω}
    {iteration : { n : Nat // 1 ≤ n }} {call : ToolCall}
    (h : Comes d system left p w (.dispatching iteration call) w₁) :
    ∃ before left' q text done rest, (d.converse system left p).run w =
      ((d.dispatch iteration call >>= d.resume system left' q text done rest).run w₁).after
        before := by
  generalize hm : Moment.dispatching iteration call = m at h
  induction h with
  | asks => cases hm
  | @dispatches left p w w₁ w₂ text earlier rest call events₁ events₂ done heard worked =>
    cases hm
    refine ⟨events₁ ++ .noticed (.entered .dispatchingTools p.iteration) :: events₂, left, p, text,
      done, rest, ?_⟩
    have hwork := dispatchAll_append_run worked rfl call rest
    rw [Dialogue.converse, Act.bind_run_after heard.listen_run]
    have hasks : (earlier ++ call :: rest).isEmpty = false := by simp
    simp only [hasks, Bool.false_eq_true, ↓reduceIte, Dialogue.work, Dialogue.enter, Act.bind_run,
      Act.notice_run, hwork, Outcome.after]
    rcases (d.dispatch p.iteration call).run w₂ with ⟨result, w₃, events₃⟩
    cases result with
    | error f => simp
    | ok r =>
      simp only [Dialogue.resume, Act.bind_run]
      rcases (d.dispatchAll p.iteration rest).run w₃ with ⟨result, w₄, events₄⟩
      cases result <;> simp
  | @later left p w w₁ w₂ w₃ text calls events₁ events₂ new m heard asks worked rest ih =>
    obtain ⟨before, left', q, text', done, others, hrun⟩ := ih hm
    refine ⟨events₁ ++ .noticed (.entered .dispatchingTools p.iteration) :: events₂ ++ before,
      left', q, text', done, others, ?_⟩
    have hcourse := Course.onward heard asks worked
      (d.course_converse system left (p.next text new) w₂)
    rw [hcourse.converse_run, hrun]
    simp [Outcome.after]

/-- A call that is not reported on ends the dialogue with its failure. -/
theorem Comes.dispatch_error {left : Nat} {p : Position} {w w₁ : ω}
    {iteration : { n : Nat // 1 ≤ n }} {call : ToolCall} {f : Failure}
    (h : Comes d system left p w (.dispatching iteration call) w₁)
    (hf : ((d.dispatch iteration call).run w₁).result = .error f) :
    ((d.converse system left p).run w).EndsWith ((d.dispatch iteration call).run w₁) f := by
  obtain ⟨before, left', q, text, done, rest, hrun⟩ := h.dispatching_run
  rcases hdispatch : (d.dispatch iteration call).run w₁ with ⟨result, w₂, events⟩
  rw [hdispatch] at hf
  cases hf
  rw [hrun, Act.bind_run_error hdispatch]
  exact ⟨rfl, rfl, before, rfl⟩

/-- A call that is reported on is followed by the rest of the dialogue, and a result of the dialogue
holds the report. -/
theorem Comes.dispatch_ok {left : Nat} {p : Position} {w w₁ : ω}
    {iteration : { n : Nat // 1 ≤ n }} {call : ToolCall} {r : ToolReport}
    (h : Comes d system left p w (.dispatching iteration call) w₁)
    (hr : ((d.dispatch iteration call).run w₁).result = .ok r) :
    ((d.converse system left p).run w).GoesOnWith ((d.dispatch iteration call).run w₁) r := by
  obtain ⟨before, left', q, text, done, rest, hrun⟩ := h.dispatching_run
  rcases hdispatch : (d.dispatch iteration call).run w₁ with ⟨result, w₂, events⟩
  rw [hdispatch] at hr
  cases hr
  rw [hrun, Act.bind_run_after hdispatch]
  have hmore := @resume_events_ne_nil _ d system left' q text done rest r w₂
  refine ⟨rfl, ⟨before, _, hmore, ?_⟩, fun result hresult => mem_reports_of_resume hresult⟩
  simp

/-- A question that is not answered ends the dialogue with its failure. -/
theorem Comes.ask_error {left : Nat} {p q : Position} {w w₁ : ω} {f : Failure}
    (h : Comes d system left p w (.asking q) w₁)
    (hf : ((d.ask system q.history).run w₁).result = .error f) :
    ((d.converse system left p).run w).EndsWith ((d.ask system q.history).run w₁) f := by
  obtain ⟨before, left', hrun⟩ := h.asking_run
  rcases hask : (d.ask system q.history).run w₁ with ⟨result, w₂, events⟩
  rw [hask] at hf
  cases hf
  have hcourse : Course d system left' q w₁ _ := .unheard (.unanswered hask)
  rw [hrun, hcourse.converse_run]
  refine ⟨rfl, rfl, before ++ [.noticed (.entered .awaitingResponse q.iteration)], ?_⟩
  simp

/-- A question that is answered by a text is followed by the rest of the dialogue, and the calls are
looked for in that text. -/
theorem Comes.ask_ok {left : Nat} {p q : Position} {w w₁ : ω} {text : Text}
    (h : Comes d system left p w (.asking q) w₁)
    (hreply : ((d.ask system q.history).run w₁).result = .ok (.str text))
    (hclean : text.hasByte = false) :
    ((d.listen system q).run w₁).result = (ToolCall.all text).map (fun calls => (text, calls)) ∧
      ∃ before after, ((d.converse system left p).run w).events =
        before ++ ((d.ask system q.history).run w₁).events ++
          .noticed (.entered .parsing q.iteration) :: after := by
  obtain ⟨before, left', hrun⟩ := h.asking_run
  rcases hask : (d.ask system q.history).run w₁ with ⟨result, w₂, events⟩
  rw [hask] at hreply
  cases hreply
  have hturn := replyTurn_text_iff.2 hclean
  -- the reply is heard, and only what is found in it decides how the dialogue goes on
  have hevents : ∃ after, ((d.converse system left' q).run w₁).events =
      ((d.listen system q).run w₁).events ++ after := by
    cases left' with
    | zero =>
      rw [Dialogue.converse, Act.bind_run]
      rcases (d.listen system q).run w₁ with ⟨result, w', events'⟩
      cases result with
      | ok heard => exact ⟨_, rfl⟩
      | error f => exact ⟨[], (List.append_nil _).symm⟩
    | succ left' =>
      rw [Dialogue.converse, Act.bind_run]
      rcases (d.listen system q).run w₁ with ⟨result, w', events'⟩
      cases result with
      | ok heard => exact ⟨_, rfl⟩
      | error f => exact ⟨[], (List.append_nil _).symm⟩
  obtain ⟨after, hafter⟩ := hevents
  have hlisten : (d.listen system q).run w₁ =
      ⟨(ToolCall.all text).map (fun calls => (text, calls)), w₂,
        .noticed (.entered .awaitingResponse q.iteration) :: events ++
          [.noticed (.entered .parsing q.iteration)]⟩ := by
    cases hcalls : ToolCall.all text with
    | error f => exact (Heard.unread hask hturn hcalls).listen_run
    | ok calls => exact (Heard.read hask hturn hcalls).listen_run
  refine ⟨by rw [hlisten],
    before ++ [.noticed (.entered .awaitingResponse q.iteration)], after, ?_⟩
  rw [hrun, Outcome.after_events, hafter, hlisten]
  simp

end ReleaseNotes
