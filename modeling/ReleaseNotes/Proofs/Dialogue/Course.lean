/-
The course of a dialogue.

How a dialogue can go, step by step, from a world to an outcome: a relation for each of its parts,
with one constructor for each way in which the part can end.

Main statements:
* `Heard` — how a reply of the model is heard;
* `Dispatched`, `Worked` — how a tool call goes, and how the calls of a reply go;
* `Course` — how the iterations of a dialogue go;
* `Dialogue.course_run` — a dialogue goes that way;
* `Course.converse_run` — and no other.
-/
import ReleaseNotes.Dialogue.Run
import ReleaseNotes.Proofs.Retry.Attempts

namespace ReleaseNotes

open Dialogue

variable {ω : Type}

/-- What a dialogue tells at its end, with the calls that its last reply still asks for. -/
def Dialogue.Position.closing (p : Position) (pending : List ToolCall) : List Event :=
  .noticed (.entered .done p.iteration) ::
    (if pending.isEmpty then []
      else [.noticed (.cutOff p.iteration (pending.map ToolCall.tool))]) ++
    [.noticed (.finished p.iteration p.reports.length !pending.isEmpty)]

/-- How the next reply is heard: from a world to an outcome. -/
inductive Heard (d : Dialogue ω) (system : Text) (p : Position) (w : ω) :
    Outcome ω (Text × List ToolCall) → Prop
  /-- The model does not answer. -/
  | unanswered {f : Failure} {w' : ω} {events : List Event}
      (asked : (d.ask system p.history).run w = ⟨.error f, w', events⟩) :
      Heard d system p w ⟨.error f, w', .noticed (.entered .awaitingResponse p.iteration) :: events⟩
  /-- The model answers with a value that is no text. -/
  | untold {reply : Json} {f : Failure} {w' : ω} {events : List Event}
      (asked : (d.ask system p.history).run w = ⟨.ok reply, w', events⟩)
      (turn : replyTurn reply = .error f) :
      Heard d system p w ⟨.error f, w', .noticed (.entered .awaitingResponse p.iteration) :: events⟩
  /-- The model answers, and one of the blocks of its text cannot be decoded at all. -/
  | unread {text : Text} {f : Failure} {w' : ω} {events : List Event}
      (asked : (d.ask system p.history).run w = ⟨.ok (.str text), w', events⟩)
      (turn : replyTurn (.str text) = .ok ⟨.assistant, text⟩)
      (calls : ToolCall.all text = .error f) :
      Heard d system p w ⟨.error f, w',
        .noticed (.entered .awaitingResponse p.iteration) :: events ++
          [.noticed (.entered .parsing p.iteration)]⟩
  /-- The model answers, and the calls of its text are read. -/
  | read {text : Text} {calls : List ToolCall} {w' : ω} {events : List Event}
      (asked : (d.ask system p.history).run w = ⟨.ok (.str text), w', events⟩)
      (turn : replyTurn (.str text) = .ok ⟨.assistant, text⟩)
      (calls_eq : ToolCall.all text = .ok calls) :
      Heard d system p w ⟨.ok (text, calls), w',
        .noticed (.entered .awaitingResponse p.iteration) :: events ++
          [.noticed (.entered .parsing p.iteration)]⟩

/-- How a tool call goes. -/
inductive Dispatched (d : Dialogue ω) (iteration : { n : Nat // 1 ≤ n }) (call : ToolCall) (w : ω) :
    Outcome ω ToolReport → Prop
  /-- The tool returns a value that can be written. -/
  | returned {v : ToolValue} {t : Text} {w' : ω} {events : List Event}
      (tried : (d.attempt (d.trial call)).run w = ⟨.ok v, w', events⟩)
      (written : v.encode = .ok t) :
      Dispatched d iteration call w ⟨.ok (report iteration call true t), w',
        .noticed (.dispatched call.tool iteration) :: events⟩
  /-- The tool returns a value that cannot be written. -/
  | unwritten {v : ToolValue} {f : Failure} {w' : ω} {events : List Event}
      (tried : (d.attempt (d.trial call)).run w = ⟨.ok v, w', events⟩)
      (unwritten : v.encode = .error f) :
      Dispatched d iteration call w
        ⟨.error f, w', .noticed (.dispatched call.tool iteration) :: events⟩
  /-- The tool fails, and the model is told so. -/
  | told {f : Failure} {w' : ω} {events : List Event}
      (tried : (d.attempt (d.trial call)).run w = ⟨.error f, w', events⟩)
      (told : isTold f = true) :
      Dispatched d iteration call w
        ⟨.ok (report iteration call false (failureText call.tool f)), w',
          .noticed (.dispatched call.tool iteration) :: events ++
            [.noticed (.callFailed call.tool f)]⟩
  /-- The tool fails, and that ends the dialogue. -/
  | broken {f : Failure} {w' : ω} {events : List Event}
      (tried : (d.attempt (d.trial call)).run w = ⟨.error f, w', events⟩)
      (untold : isTold f = false) :
      Dispatched d iteration call w
        ⟨.error f, w', .noticed (.dispatched call.tool iteration) :: events⟩

/-- How calls go, one after another. -/
inductive Worked (d : Dialogue ω) (iteration : { n : Nat // 1 ≤ n }) :
    List ToolCall → ω → Outcome ω (List ToolReport) → Prop
  | none {w : ω} : Worked d iteration [] w ⟨.ok [], w, []⟩
  /-- A call ends the dialogue. -/
  | broken {call : ToolCall} {rest : List ToolCall} {w w' : ω} {f : Failure} {events : List Event}
      (first : Dispatched d iteration call w ⟨.error f, w', events⟩) :
      Worked d iteration (call :: rest) w ⟨.error f, w', events⟩
  /-- A call is reported on, and the rest follows. -/
  | reported {call : ToolCall} {rest : List ToolCall} {w w' : ω} {r : ToolReport}
      {events : List Event} {o : Outcome ω (List ToolReport)}
      (first : Dispatched d iteration call w ⟨.ok r, w', events⟩)
      (others : Worked d iteration rest w' o) :
      Worked d iteration (call :: rest) w ⟨o.result.map (r :: ·), o.world, events ++ o.events⟩

/-- How the iterations of a dialogue go, from a position on with so many left after it. -/
inductive Course (d : Dialogue ω) (system : Text) :
    Nat → Position → ω → Outcome ω DialogueResult → Prop
  /-- No reply is heard. -/
  | unheard {left : Nat} {p : Position} {w w' : ω} {f : Failure} {events : List Event}
      (heard : Heard d system p w ⟨.error f, w', events⟩) :
      Course d system left p w ⟨.error f, w', events⟩
  /-- The reply asks for no tool, or no iteration is left. -/
  | concluded {left : Nat} {p : Position} {w w' : ω} {text : Text} {calls : List ToolCall}
      {events : List Event} (heard : Heard d system p w ⟨.ok (text, calls), w', events⟩)
      (last : calls = [] ∨ left = 0) :
      Course d system left p w ⟨.ok (p.result text calls), w', events ++ p.closing calls⟩
  /-- The reply asks for tools, and one of the calls ends the dialogue. -/
  | broken {left : Nat} {p : Position} {w w₁ w₂ : ω} {text : Text} {calls : List ToolCall}
      {events₁ events₂ : List Event} {f : Failure}
      (heard : Heard d system p w ⟨.ok (text, calls), w₁, events₁⟩) (asks : calls ≠ [])
      (worked : Worked d p.iteration calls w₁ ⟨.error f, w₂, events₂⟩) :
      Course d system (left + 1) p w ⟨.error f, w₂,
        events₁ ++ .noticed (.entered .dispatchingTools p.iteration) :: events₂⟩
  /-- The reply asks for tools, and the next iteration follows. -/
  | onward {left : Nat} {p : Position} {w w₁ w₂ : ω} {text : Text} {calls : List ToolCall}
      {events₁ events₂ : List Event} {new : List ToolReport} {o : Outcome ω DialogueResult}
      (heard : Heard d system p w ⟨.ok (text, calls), w₁, events₁⟩) (asks : calls ≠ [])
      (worked : Worked d p.iteration calls w₁ ⟨.ok new, w₂, events₂⟩)
      (rest : Course d system left (p.next text new) w₂ o) :
      Course d system (left + 1) p w ⟨o.result, o.world,
        events₁ ++ .noticed (.entered .dispatchingTools p.iteration) :: (events₂ ++ o.events)⟩

namespace Dialogue

variable (d : Dialogue ω) (system : Text)

theorem question_run (history : List Turn) (w : ω) :
    (d.question system history).run w =
      ⟨((d.service system history).run w).result, ((d.service system history).run w).world,
        .asked system history :: ((d.service system history).run w).events.map .inside ++
          [.answered ((d.service system history).run w).result]⟩ := by
  simp [question, Act.bind_run, Act.observed_run]

theorem trial_run (call : ToolCall) (w : ω) :
    (d.trial call).run w =
      ⟨((d.tools call).run w).result, ((d.tools call).run w).world,
        ((d.tools call).run w).events.map .inside ++
          [.called call ((d.tools call).run w).result]⟩ := rfl

/-- Only a text makes a turn, and the turn holds that very text. -/
theorem eq_of_replyTurn {reply : Json} {t : Turn} (h : replyTurn reply = .ok t) :
    reply = .str t.content ∧ t = ⟨.assistant, t.content⟩ := by
  unfold replyTurn at h
  rw [Validated.orFail_eq_ok_iff] at h
  cases reply with
  | str text =>
    by_cases hb : text.hasByte = true
    · simp [Check.text, hb, Check.refuse, Validated.under, Validated.map] at h
    · simp only [Check.text, hb, Validated.under, Validated.map] at h
      cases h
      exact ⟨rfl, rfl⟩
  | _ => simp [Check.text, Check.refuse, Validated.under, Validated.map] at h

theorem heard_listen (p : Position) (w : ω) :
    Heard d system p w ((d.listen system p).run w) := by
  rw [listen, enter, Act.bind_run_ok (Act.notice_run _ w)]
  rcases hask : (d.ask system p.history).run w with ⟨result, w', events⟩
  cases result with
  | error f =>
    rw [Act.bind_run_error hask]
    exact .unanswered hask
  | ok reply =>
    rw [Act.bind_run_ok hask]
    -- only a text becomes a turn, so the calls are looked for in the reply itself
    cases hturn : replyTurn reply with
    | error f =>
      rw [Act.bind_run_error (Act.of_run _ w')]
      simpa using Heard.untold hask hturn
    | ok turn =>
      obtain ⟨rfl, hrole⟩ := eq_of_replyTurn hturn
      rw [hrole] at hturn
      rw [Act.bind_run_ok (Act.of_run _ w'), enter, Act.bind_run_ok (Act.notice_run _ w')]
      cases hcalls : ToolCall.all turn.content with
      | error f =>
        rw [Act.bind_run_error (Act.of_run _ w')]
        simpa using Heard.unread hask hturn hcalls
      | ok calls =>
        rw [Act.bind_run_ok (Act.of_run _ w')]
        simpa using Heard.read hask hturn hcalls

/-- A call that is performed comes to the result of its attempts, or the failure is told. -/
theorem perform_run (call : ToolCall) (w : ω) :
    (d.perform call).run w =
      match (d.attempt (d.trial call)).run w with
      | ⟨.ok v, w', events⟩ => ⟨.ok (.ok v), w', events⟩
      | ⟨.error f, w', events⟩ =>
        if isTold f = true then
          ⟨.ok (.error f), w', events ++ [.noticed (.callFailed call.tool f)]⟩
        else ⟨.error f, w', events⟩ := by
  rw [perform, Act.rescue_run, Act.map_run]
  rcases (d.attempt (d.trial call)).run w with ⟨result, w', events⟩
  cases result with
  | ok v => rfl
  | error f =>
    by_cases ht : isTold f = true
    · simp [Except.map, ht, Act.bind_run]
    · simp [Except.map, ht]

theorem dispatched_dispatch (iteration : { n : Nat // 1 ≤ n }) (call : ToolCall) (w : ω) :
    Dispatched d iteration call w ((d.dispatch iteration call).run w) := by
  rw [dispatch, Act.bind_run_ok (Act.notice_run _ w)]
  have hperform := d.perform_run call w
  rcases h : (d.attempt (d.trial call)).run w with ⟨result, w', events⟩
  rw [h] at hperform
  cases result with
  | ok v =>
    rw [Act.bind_run_ok hperform]
    cases hv : v.encode with
    | ok t => simpa [hv, Except.map] using Dispatched.returned h hv
    | error f => simpa [hv, Except.map] using Dispatched.unwritten h hv
  | error f =>
    dsimp only at hperform
    by_cases ht : isTold f = true
    · rw [if_pos ht] at hperform
      rw [Act.bind_run_ok hperform]
      simpa using Dispatched.told h ht
    · rw [if_neg ht] at hperform
      rw [Act.bind_run_error hperform]
      exact .broken h (by simpa using ht)

theorem worked_dispatchAll (iteration : { n : Nat // 1 ≤ n }) (calls : List ToolCall) (w : ω) :
    Worked d iteration calls w ((d.dispatchAll iteration calls).run w) := by
  induction calls generalizing w with
  | nil => exact .none
  | cons call rest ih =>
    have hfirst := d.dispatched_dispatch iteration call w
    rw [dispatchAll]
    rcases h : (d.dispatch iteration call).run w with ⟨result, w', events⟩
    rw [h] at hfirst
    cases result with
    | error f =>
      rw [Act.bind_run_error h]
      exact .broken hfirst
    | ok r =>
      rw [Act.bind_run_ok h]
      have := Worked.reported hfirst (ih w')
      rcases hrest : (d.dispatchAll iteration rest).run w' with ⟨result', w'', events'⟩
      rw [hrest] at this
      cases result' with
      | error f =>
        rw [Act.bind_run_error hrest]
        exact this
      | ok rs =>
        rw [Act.bind_run_ok hrest]
        simpa [Except.map] using this

theorem conclude_run (p : Position) (text : Text) (pending : List ToolCall) (w : ω) :
    (conclude p text pending).run w =
      ⟨.ok (p.result text pending), w, p.closing pending⟩ := by
  cases pending with
  | nil => simp [conclude, enter, Act.bind_run, Position.closing]
  | cons c cs => simp [conclude, enter, Act.bind_run, Position.closing]

theorem course_converse (left : Nat) (p : Position) (w : ω) :
    Course d system left p w ((d.converse system left p).run w) := by
  -- by the iterations that are left; the position changes from one to the next
  induction left generalizing p w with
  | zero =>
    -- the iterations are used up, and a reply ends the dialogue whatever it asks for
    have hheard := heard_listen d system p w
    rw [converse]
    rcases h : (d.listen system p).run w with ⟨result, w', events⟩
    rw [h] at hheard
    cases result with
    | error f =>
      rw [Act.bind_run_error h]
      exact .unheard hheard
    | ok heard =>
      rw [Act.bind_run_ok h, conclude_run]
      exact .concluded hheard (.inr rfl)
  | succ left ih =>
    have hheard := heard_listen d system p w
    rw [converse]
    rcases h : (d.listen system p).run w with ⟨result, w₁, events₁⟩
    rw [h] at hheard
    cases result with
    | error f =>
      rw [Act.bind_run_error h]
      exact .unheard hheard
    | ok heard =>
      obtain ⟨text, calls⟩ := heard
      rw [Act.bind_run_ok h]
      cases calls with
      | nil =>
        simp only [List.isEmpty_nil, ↓reduceIte, conclude_run]
        exact .concluded hheard (.inl rfl)
      | cons c cs =>
        have hworked := d.worked_dispatchAll p.iteration (c :: cs) w₁
        simp only [List.isEmpty_cons, Bool.false_eq_true, ↓reduceIte]
        rcases hwork : (d.dispatchAll p.iteration (c :: cs)).run w₁ with ⟨result, w₂, events₂⟩
        rw [hwork] at hworked
        cases result with
        | error f =>
          have : Course d system (left + 1) p w _ := .broken hheard (by simp) hworked
          simpa [work, enter, Act.bind_run, hwork] using this
        | ok new =>
          have := Course.onward hheard (by simp) hworked (ih (p.next text new) w₂)
          simpa [work, enter, Act.bind_run, hwork] using this

/-- A dialogue goes from its start as the relation says. -/
theorem course_run (user : Text) (w : ω) :
    Course d system (d.settings.maxIterations.val - 1) (.start user) w
      ((d.run system user).run w) :=
  course_converse d system _ (.start user) w

end Dialogue

section

variable {d : Dialogue ω} {system : Text}

/-! ### There is only one way for a dialogue to go -/

theorem Heard.listen_run {p : Position} {w : ω} {o : Outcome ω (Text × List ToolCall)}
    (h : Heard d system p w o) : (d.listen system p).run w = o := by
  rw [Dialogue.listen, Dialogue.enter, Act.bind_run_ok (Act.notice_run _ w)]
  cases h with
  | unanswered asked => rw [Act.bind_run_error asked, List.singleton_append]
  | untold asked turn =>
    rw [Act.bind_run_ok asked, turn]
    simp [Act.bind_run]
  | unread asked turn calls =>
    rw [Act.bind_run_ok asked, turn]
    simp [Act.bind_run, Dialogue.enter, calls]
  | read asked turn calls_eq =>
    rw [Act.bind_run_ok asked, turn]
    simp [Act.bind_run, Dialogue.enter, calls_eq]

theorem Dispatched.dispatch_run {iteration : { n : Nat // 1 ≤ n }} {call : ToolCall} {w : ω}
    {o : Outcome ω ToolReport} (h : Dispatched d iteration call w o) :
    (d.dispatch iteration call).run w = o := by
  have hperform := d.perform_run call w
  rw [Dialogue.dispatch, Act.bind_run_ok (Act.notice_run _ w)]
  cases h with
  | returned tried written =>
    rw [tried] at hperform
    rw [Act.bind_run_ok hperform]
    simp [written, Except.map]
  | unwritten tried unwritten =>
    rw [tried] at hperform
    rw [Act.bind_run_ok hperform]
    simp [unwritten, Except.map]
  | told tried told =>
    rw [tried] at hperform
    dsimp only at hperform
    rw [if_pos told] at hperform
    rw [Act.bind_run_ok hperform]
    simp
  | broken tried untold =>
    rw [tried] at hperform
    dsimp only at hperform
    rw [if_neg (by simp [untold])] at hperform
    rw [Act.bind_run_error hperform]
    rfl

theorem Worked.dispatchAll_run {iteration : { n : Nat // 1 ≤ n }} {calls : List ToolCall} {w : ω}
    {o : Outcome ω (List ToolReport)} (h : Worked d iteration calls w o) :
    (d.dispatchAll iteration calls).run w = o := by
  induction h with
  | none => rfl
  | broken first => rw [Dialogue.dispatchAll, Act.bind_run_error first.dispatch_run]
  | @reported call rest w w' r events o first _ ih =>
    rw [Dialogue.dispatchAll, Act.bind_run_ok first.dispatch_run]
    obtain ⟨result, w'', events'⟩ := o
    cases result with
    | error f => rw [Act.bind_run_error ih]; rfl
    | ok rs => rw [Act.bind_run_ok ih]; simp [Except.map]

theorem Course.converse_run {left : Nat} {p : Position} {w : ω} {o : Outcome ω DialogueResult}
    (h : Course d system left p w o) : (d.converse system left p).run w = o := by
  induction h with
  | unheard heard =>
    rename_i left p _ _ _ _
    cases left <;> rw [Dialogue.converse, Act.bind_run_error heard.listen_run]
  | @concluded left p w w' text calls events heard last =>
    cases left with
    | zero => rw [Dialogue.converse, Act.bind_run_ok heard.listen_run, conclude_run]
    | succ left =>
      -- an iteration is left, so nothing is asked for
      obtain rfl : calls = [] := by simpa using last
      rw [Dialogue.converse, Act.bind_run_ok heard.listen_run]
      simp [conclude_run]
  | @broken left p w w₁ w₂ text calls events₁ events₂ f heard asks worked =>
    rw [Dialogue.converse, Act.bind_run_ok heard.listen_run]
    simp [List.isEmpty_eq_false_iff.2 asks, Dialogue.work, Dialogue.enter, Act.bind_run,
      worked.dispatchAll_run]
  | @onward left p w w₁ w₂ text calls events₁ events₂ new o heard asks worked rest ih =>
    rw [Dialogue.converse, Act.bind_run_ok heard.listen_run]
    simp [List.isEmpty_eq_false_iff.2 asks, Dialogue.work, Dialogue.enter, Act.bind_run,
      worked.dispatchAll_run, ih]

end

end ReleaseNotes
