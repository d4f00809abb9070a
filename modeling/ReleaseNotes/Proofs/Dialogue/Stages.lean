/-
The stages of a dialogue.

A dialogue goes through whole rounds until a reply asks for no tool or the iterations are used up,
and its last round ends it.  A dialogue that fails stops within a round.

Main statements:
* `Course.replies_of_ok`, `Course.stages_of_ok`, `Course.length_questions_le` — a dialogue with a
  result, from a position on;
* `Course.stages_of_error` — a dialogue that fails, from a position on;
* `Dialogue.run_stages` — a whole dialogue.
-/
import Mathlib.Order.Bounds.Defs
import ReleaseNotes.Proofs.Dialogue.Trace

namespace ReleaseNotes

open Dialogue

variable {ω : Type} {d : Dialogue ω} {system : Text}

/-- The stages of some rounds that all go on. -/
def wholeRounds (n : Nat) : List Stage := (List.replicate n wholeRound).flatten

@[simp] theorem wholeRounds_zero : wholeRounds 0 = [] := rfl

theorem wholeRounds_succ (n : Nat) : wholeRounds (n + 1) = wholeRound ++ wholeRounds n := rfl

theorem done_not_mem_wholeRounds (n : Nat) : Stage.done ∉ wholeRounds n := by
  induction n with
  | zero => simp
  | succ n ih => simp [wholeRounds_succ, wholeRound, ih]

/-- The end of a dialogue is seen as one stage, and nothing else. -/
theorem Dialogue.Position.filterMap_closing (p : Position) (pending : List ToolCall) :
    (p.closing pending).filterMap Event.stage? = [.done] ∧
      (p.closing pending).filterMap Event.reply? = [] ∧
      (p.closing pending).filterMap Event.question? = [] ∧
      (p.closing pending).filterMap Event.toolStep? = [] := by
  cases pending with
  | nil => exact ⟨rfl, rfl, rfl, rfl⟩
  | cons c cs => exact ⟨rfl, rfl, rfl, rfl⟩

/-- The replies of a dialogue with a result: all but the last ask for tools, and the last one is the
text of the result. -/
theorem Course.replies_of_ok {left : Nat} {p : Position} {w : ω} {o : Outcome ω DialogueResult}
    (h : Course d system left p w o) {r : DialogueResult} (hr : o.result = .ok r) :
    ∃ earlier : List Text, o.replies = earlier ++ [r.text] ∧
      (∀ t ∈ earlier, ∃ c cs, ToolCall.all t = .ok (c :: cs)) ∧
      r.iterations.val = p.iteration + earlier.length ∧
      ∃ calls, ToolCall.all r.text = .ok calls ∧ r.truncated = !calls.isEmpty ∧
        earlier.length ≤ left ∧ (calls = [] ∨ earlier.length = left) := by
  induction h with
  | unheard _ | broken _ _ _ => cases hr
  | @concluded left p w w' text calls events heard last =>
    cases hr
    obtain ⟨-, hreplies, hcalls⟩ := heard.trace_of_ok
    obtain ⟨-, hclosing, -⟩ := p.filterMap_closing calls
    refine ⟨[], ?_, by simp, rfl, calls, hcalls, rfl, by simp, ?_⟩
    · simp [Outcome.replies, hreplies, hclosing, Position.result]
    · simpa [eq_comm] using last
  | @onward left p w w₁ w₂ text calls events₁ events₂ new o heard asks worked _ ih =>
    obtain ⟨earlier, hreplies, hearlier, hiterations, calls', hlast, htruncated, hle, hend⟩ := ih hr
    obtain ⟨-, -, hcalls⟩ := heard.trace_of_ok
    -- the reply of this iteration asks for tools and stands before the earlier ones of the rest
    refine ⟨text :: earlier, ?_, ?_, ?_, calls', hlast, htruncated, ?_, ?_⟩
    · have hrest : o.events.filterMap Event.reply? = earlier ++ [r.text] := hreplies
      rw [Outcome.replies, heard.replies_onward worked, hrest, List.cons_append]
    · intro t ht
      rcases List.mem_cons.1 ht with rfl | ht
      · obtain ⟨c, cs, rfl⟩ := List.exists_cons_of_ne_nil asks
        exact ⟨c, cs, hcalls⟩
      · exact hearlier t ht
    · rw [hiterations, Position.next_iteration, List.length_cons]
      omega
    · simpa using hle
    · simpa using hend

theorem Course.iteration_le {left : Nat} {p : Position} {w : ω} {o : Outcome ω DialogueResult}
    (h : Course d system left p w o) {r : DialogueResult} (hr : o.result = .ok r) :
    p.iteration.val ≤ r.iterations := by
  obtain ⟨earlier, -, -, hiterations, -⟩ := h.replies_of_ok hr
  omega

/-- The stages of a dialogue that goes on after an iteration: a whole round stands before the
others. -/
theorem Heard.stages_onward {p : Position} {w w' : ω} {text : Text} {calls : List ToolCall}
    {events : List Event} {o : Outcome ω (List ToolReport)}
    (heard : Heard d system p w ⟨.ok (text, calls), w', events⟩)
    (worked : Worked d p.iteration calls w' o) (rest : List Event) :
    (events ++ .noticed (.entered .dispatchingTools p.iteration) :: (o.events ++ rest)).filterMap
      Event.stage? = wholeRound ++ rest.filterMap Event.stage? := by
  obtain ⟨hstages, -⟩ := heard.trace_of_ok
  rw [worked.filterMap_onward Event.aloof_stage?, hstages]
  rfl

/-- The stages of a dialogue with a result: whole rounds, one for each reply but the last, and the
last round. -/
theorem Course.stages_of_ok {left : Nat} {p : Position} {w : ω} {o : Outcome ω DialogueResult}
    (h : Course d system left p w o) {r : DialogueResult} (hr : o.result = .ok r) :
    o.stages = wholeRounds (r.iterations - p.iteration) ++ lastRound ∧
      r.stages = p.stages ++ o.stages := by
  induction h with
  | unheard _ | broken _ _ _ => cases hr
  | @concluded left p w w' text calls events heard last =>
    cases hr
    obtain ⟨hstages, -⟩ := heard.trace_of_ok
    obtain ⟨hclosing, -⟩ := p.filterMap_closing calls
    have ho : (events ++ p.closing calls).filterMap Event.stage? = lastRound := by
      rw [List.filterMap_append, hstages, hclosing]
      rfl
    simp only [Outcome.stages, ho, Position.result, Nat.sub_self, wholeRounds_zero, List.nil_append,
      and_self]
  | @onward left p w w₁ w₂ text calls events₁ events₂ new o heard asks worked rest ih =>
    have hle := rest.iteration_le hr
    obtain ⟨hrest, hr⟩ := ih hr
    have ho : (Outcome.mk o.result o.world
        (events₁ ++ .noticed (.entered .dispatchingTools p.iteration) ::
          (events₂ ++ o.events))).stages = wholeRound ++ o.stages :=
      heard.stages_onward worked o.events
    have hcount : r.iterations - p.iteration.val =
        (r.iterations - (p.next text new).iteration.val) + 1 := by
      rw [Position.next_iteration] at hle ⊢
      omega
    refine ⟨?_, ?_⟩
    · rw [ho, hrest, hcount, wholeRounds_succ, List.append_assoc]
    · rw [ho, hr, ← List.append_assoc]
      rfl

/-- The model is asked at most as often as the attempts of the iterations allow. -/
theorem Course.length_questions_le {left : Nat} {p : Position} {w : ω}
    {o : Outcome ω DialogueResult} (h : Course d system left p w o) {r : DialogueResult}
    (hr : o.result = .ok r) :
    o.questions.length ≤ (r.iterations + 1 - p.iteration) * d.attempts := by
  induction h with
  | unheard _ | broken _ _ _ => cases hr
  | @concluded left p w w' text calls events heard last =>
    cases hr
    obtain ⟨-, -, k, hk, hquestions⟩ := heard.trace
    obtain ⟨-, -, hclosing, -⟩ := p.filterMap_closing calls
    simp only [Outcome.questions, List.filterMap_append, hquestions, hclosing, List.append_nil,
      List.length_replicate, Position.result, Nat.add_sub_cancel_left, Nat.one_mul]
    exact hk
  | @onward left p w w₁ w₂ text calls events₁ events₂ new o heard asks worked rest ih =>
    have hle := rest.iteration_le hr
    obtain ⟨-, -, k, hk, hquestions⟩ := heard.trace
    have hcount : r.iterations + 1 - p.iteration.val =
        (r.iterations + 1 - (p.next text new).iteration.val) + 1 := by
      rw [Position.next_iteration] at hle ⊢
      omega
    have ho : (Outcome.mk o.result o.world
        (events₁ ++ .noticed (.entered .dispatchingTools p.iteration) ::
          (events₂ ++ o.events))).questions =
        List.replicate k (system, p.history) ++ o.questions := by
      rw [Outcome.questions, worked.filterMap_onward Event.aloof_question?, hquestions]
      rfl
    rw [ho, List.length_append, List.length_replicate, hcount, Nat.succ_mul]
    have := ih hr
    omega

/-- The stages of a dialogue that fails are the begin of whole rounds. -/
theorem Course.stages_of_error {left : Nat} {p : Position} {w : ω} {o : Outcome ω DialogueResult}
    (h : Course d system left p w o) {f : Failure} (hf : o.result = .error f) :
    o.stages <+: wholeRounds (left + 1) := by
  induction h with
  | @unheard left p w w' f events heard =>
    obtain ⟨hstages, -⟩ := heard.trace
    refine hstages.trans ?_
    rw [wholeRounds_succ]
    exact ⟨.dispatchingTools :: wholeRounds left, rfl⟩
  | concluded _ _ => cases hf
  | @broken left p w w₁ w₂ text calls events₁ events₂ f heard asks worked =>
    have hround := heard.stages_onward worked []
    rw [List.append_nil, List.filterMap_nil, List.append_nil] at hround
    rw [Outcome.stages, hround, wholeRounds_succ]
    exact List.prefix_append _ _
  | @onward left p w w₁ w₂ text calls events₁ events₂ new o heard asks worked rest ih =>
    have hrest : o.events.filterMap Event.stage? <+: wholeRounds (left + 1) := ih hf
    rw [Outcome.stages, heard.stages_onward worked, wholeRounds_succ]
    exact (List.prefix_append_right_inj wholeRound).2 hrest

/-- A whole dialogue.  With a result, it ends with the first reply that asks for no tool or uses the
iterations up, and that reply is the text; its stages are whole rounds and a last one, each of
them entered in this order, and no question is asked more often than its attempts allow.  Without a
result, it stops somewhere in the whole rounds and is never done. -/
theorem Dialogue.run_stages (d : Dialogue ω) (system user : Text) (w : ω) :
    let o := (d.run system user).run w
    (∀ r, o.result = .ok r →
      IsLeast {i : Nat | 1 ≤ i ∧ ∃ reply, o.replies[i - 1]? = some reply ∧
        (ToolCall.all reply = .ok [] ∨ i = d.settings.maxIterations)} r.iterations ∧
      o.replies.length = r.iterations ∧ o.replies[r.iterations.val - 1]? = some r.text ∧
      (r.truncated = true ↔ ∃ call rest, ToolCall.all r.text = .ok (call :: rest)) ∧
      r.stages = wholeRounds (r.iterations - 1) ++ lastRound ∧ o.stages = r.stages ∧
      o.questions.length ≤ r.iterations * d.attempts) ∧
    ∀ f, o.result = .error f →
      o.stages <+: wholeRounds d.settings.maxIterations ∧ Stage.done ∉ o.stages := by
  intro o
  have hmax := d.settings.maxIterations.property
  have hcourse : Course d system (d.settings.maxIterations.val - 1) (.start user) w o :=
    d.course_run system user w
  refine ⟨fun r hr => ?_, fun f hf => ?_⟩
  · obtain ⟨earlier, hreplies, hearlier, hiterations, calls, hlast, htruncated, hle, hend⟩ :=
      hcourse.replies_of_ok hr
    obtain ⟨hstages, hr'⟩ := hcourse.stages_of_ok hr
    have hquestions := hcourse.length_questions_le hr
    simp only [Position.start, List.nil_append] at hiterations hstages hr'
    simp only [Position.start, Nat.add_sub_cancel] at hquestions
    have hlength : earlier.length = r.iterations - 1 := by omega
    refine ⟨⟨⟨r.iterations.property, r.text, ?_, ?_⟩, ?_⟩, ?_, ?_, ?_, ?_, hr'.symm, hquestions⟩
    · simp [hreplies, ← hlength]
    · rcases hend with rfl | hend
      · exact .inl hlast
      · exact .inr (by omega)
    · -- an earlier reply asks for a tool, and it does not use the iterations up
      rintro i ⟨hi, reply, hreply, hstop⟩
      refine Nat.not_lt.1 fun hlt => ?_
      have hget : reply ∈ earlier := by
        rw [hreplies, List.getElem?_append_left (by omega)] at hreply
        exact List.mem_of_getElem? hreply
      obtain ⟨c, cs, hcalls⟩ := hearlier reply hget
      rcases hstop with hnone | rfl
      · rw [hcalls] at hnone
        cases hnone
      · omega
    · rw [hreplies, List.length_append, List.length_singleton]
      omega
    · simp [hreplies, ← hlength]
    · rw [htruncated, hlast]
      cases calls <;> simp
    · rw [hr', hstages]
  · have hbegin := hcourse.stages_of_error hf
    rw [Nat.sub_add_cancel hmax] at hbegin
    exact ⟨hbegin, fun hdone => done_not_mem_wholeRounds _ (hbegin.subset hdone)⟩

end ReleaseNotes
