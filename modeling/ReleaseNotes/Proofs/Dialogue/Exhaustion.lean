/-
Calls that fail to the last.

A failure that another attempt may mend leaves a dialogue only if all attempts of a call have come to
such failures.  So of the failures of a dialogue it is these that tell of a call that failed to the
last, and that call is the last one.  No failure of a dialogue is bad input, unless the model itself
reports such a thing: what a tool reports is told to the model instead.

Main statements:
* `Exhausts` — a call that fails in all its attempts;
* `BlamesLast` — a part of a dialogue and the calls that account for it;
* `Course.exists_blamesLast` — the calls of a dialogue, from a position on;
* `Accounts.real_of_called` — what the tools come to;
* `Course.isInput_of_error` — the failures of a dialogue are no bad input.
-/
import ReleaseNotes.Proofs.Dialogue.Abort

namespace ReleaseNotes

open Dialogue

variable {ω α β γ : Type} {d : Dialogue ω} {system : Text}

/-- The model or a tool fails in all the attempts of a call, and with this failure in the last one,
each time in a way that another attempt may mend. -/
def Exhausts (p : RetryPolicy) (call : Call) (f : Failure) : Prop :=
  Aborts p call f ∧ f.isTransient = true

/-- Calls account for a part of a dialogue.  One that fails to the last is the last one, and the part
ends with it; and only so the part comes to a failure that another attempt may mend. -/
structure BlamesLast (d : Dialogue ω) (o : Outcome ω α) (calls : List Call) : Prop where
  accounts : Accounts d o.events calls
  ends : ∀ call ∈ calls, ∀ f, Exhausts d.settings.retry call f →
    o.result = .error f ∧ calls.getLast? = some call ∧ o.events.getLast? = some call.ending
  exhausted : ∀ f, o.result = .error f → f.isTransient = true →
    ∃ call ∈ calls, Exhausts d.settings.retry call f

namespace BlamesLast

theorem singleton {o : Outcome ω α} {call : Call} (accounts : Accounts d o.events [call])
    (last : o.events.getLast? = some call.ending)
    (ends : ∀ f, Aborts d.settings.retry call f → o.result = .error f)
    (aborts : ∀ f, o.result = .error f → f.isTransient = true →
      Aborts d.settings.retry call f) : BlamesLast d o [call] := by
  refine ⟨accounts, ?_, ?_⟩
  · intro c hc f hf
    obtain rfl := List.mem_singleton.1 hc
    exact ⟨ends f hf.1, rfl, last⟩
  · intro f hf htransient
    exact ⟨call, List.mem_singleton_self _, aborts f hf htransient, htransient⟩

/-- A part within a larger one: what stands around it belongs to no call, and nothing follows it if
it comes to a failure that another attempt may mend. -/
theorem within {o : Outcome ω α} {calls : List Call} (h : BlamesLast d o calls)
    {o' : Outcome ω β} (before : List Event) {after : List Event}
    (hevents : o'.events = before ++ o.events ++ after)
    (hbefore : before.filterMap Event.dealing? = []) (hafter : after.filterMap Event.dealing? = [])
    (hsame : ∀ f, f.isTransient = true → (o'.result = .error f ↔ o.result = .error f))
    (hlast : (∀ f, f.isTransient = true → o.result ≠ .error f) ∨ after = []) :
    BlamesLast d o' calls := by
  refine ⟨?_, ?_, ?_⟩
  · rw [hevents]
    exact ((Accounts.of_nil hbefore).append h.accounts).append_right hafter
  · intro call hcall f hf
    obtain ⟨hresult, hcalls, hevent⟩ := h.ends call hcall f hf
    refine ⟨(hsame f hf.2).2 hresult, hcalls, ?_⟩
    rcases hlast with hlast | rfl
    · exact absurd hresult (hlast f hf.2)
    · rw [hevents, List.append_nil, List.getLast?_append, hevent, Option.some_or]
  · intro f hf htransient
    exact h.exhausted f ((hsame f htransient).1 hf) htransient

/-- A part that fails, and what stands before it: the whole fails alike. -/
theorem preceded {f : Failure} {w : ω} {events : List Event} {calls : List Call}
    (h : BlamesLast d (Outcome.mk (.error f) w events : Outcome ω α) calls) (before : List Event)
    (hbefore : before.filterMap Event.dealing? = []) :
    BlamesLast d (Outcome.mk (.error f) w (before ++ events) : Outcome ω β) calls := by
  refine h.within before (List.append_nil _).symm hbefore rfl (fun g _ => ?_) (.inr rfl)
  simp

/-- A part that comes to a result, and a whole that does not fail in a way that another attempt may
mend. -/
theorem passed {o : Outcome ω α} {calls : List Call} (h : BlamesLast d o calls) {a : α}
    (ha : o.result = .ok a) {o' : Outcome ω β} (before after : List Event)
    (hevents : o'.events = before ++ o.events ++ after)
    (hbefore : before.filterMap Event.dealing? = []) (hafter : after.filterMap Event.dealing? = [])
    (hlasting : ∀ f, f.isTransient = true → o'.result ≠ .error f) : BlamesLast d o' calls := by
  have hnone : ∀ f, o.result ≠ .error f := by
    intro f hf
    rw [ha] at hf
    cases hf
  exact h.within before hevents hbefore hafter
    (fun f hf => iff_of_false (hlasting f hf) (hnone f)) (.inl fun f _ => hnone f)

/-- A part that comes to a result, and the part that follows it. -/
theorem followed {o₁ : Outcome ω α} {o₂ : Outcome ω β} {o : Outcome ω γ} {calls₁ calls₂ : List Call}
    (h₁ : BlamesLast d o₁ calls₁) (h₂ : BlamesLast d o₂ calls₂) {a : α} (ha : o₁.result = .ok a)
    (hevents : o.events = o₁.events ++ o₂.events)
    (hsame : ∀ f, o.result = .error f ↔ o₂.result = .error f) :
    BlamesLast d o (calls₁ ++ calls₂) := by
  refine ⟨?_, ?_, ?_⟩
  · rw [hevents]
    exact h₁.accounts.append h₂.accounts
  · intro call hcall f hf
    rcases List.mem_append.1 hcall with hcall | hcall
    · -- a call of the first part would have ended it
      obtain ⟨hresult, -⟩ := h₁.ends call hcall f hf
      rw [ha] at hresult
      cases hresult
    · obtain ⟨hresult, hcalls, hevent⟩ := h₂.ends call hcall f hf
      refine ⟨(hsame f).2 hresult, ?_, ?_⟩
      · rw [List.getLast?_append, hcalls, Option.some_or]
      · rw [hevents, List.getLast?_append, hevent, Option.some_or]
  · intro f hf htransient
    obtain ⟨call, hcall, hexhausts⟩ := h₂.exhausted f ((hsame f).1 hf) htransient
    exact ⟨call, List.mem_append_right _ hcall, hexhausts⟩

end BlamesLast

/-! ### The parts of a dialogue -/

theorem Dialogue.exists_blamesLast_ask {history : List Turn} {w w' : ω}
    {result : Except Failure Json} {events : List Event}
    (h : (d.ask system history).run w = ⟨result, w', events⟩) :
    ∃ calls, BlamesLast d ⟨result, w', events⟩ calls := by
  obtain ⟨failures, haccounts⟩ := exists_ask_accounts h
  refine ⟨_, .singleton haccounts (getLast?_ask h) ?_ ?_⟩
  · intro f hf
    cases hf <;> rfl
  · rintro f rfl -
    exact .of_model (haccounts.kept _ (by simp))

theorem Dialogue.exists_blamesLast_trial {call : ToolCall} {w w' : ω}
    {result : Except Failure ToolValue} {events : List Event}
    (h : (d.attempt (d.trial call)).run w = ⟨result, w', events⟩) :
    ∃ calls, BlamesLast d ⟨result, w', events⟩ calls := by
  obtain ⟨failures, haccounts⟩ := exists_trial_accounts h
  refine ⟨_, .singleton haccounts (getLast?_attempt_trial h) ?_ ?_⟩
  · intro f hf
    cases hf
    rfl
  · rintro f rfl htransient
    exact .of_tool (haccounts.kept _ (by simp)) htransient

theorem Dialogue.isOrdinary_of_replyTurn {reply : Json} {f : Failure}
    (h : replyTurn reply = .error f) : f.IsOrdinary := by
  unfold replyTurn Validated.orFail at h
  split at h
  · cases h
  · cases h
    exact ⟨rfl, rfl⟩

theorem ToolCall.isOrdinary_of_all {t : Text} {f : Failure} (h : all t = .error f) :
    f.IsOrdinary := by
  obtain ⟨e, -, rfl⟩ := all_eq_error_iff.1 h
  exact Failure.isOrdinary_json e

theorem ToolValue.isOrdinary_of_encode {v : ToolValue} {f : Failure} (h : v.encode = .error f) :
    f.IsOrdinary := by
  have hjson : ∀ {j : Json}, encodeJson j = .error f → f.IsOrdinary := by
    intro j hj
    unfold encodeJson at hj
    split at hj
    · cases hj
    · cases hj
      exact ⟨rfl, rfl⟩
  unfold encode at h
  split at h
  · cases h
  · exact hjson h
  · exact hjson h
  · cases h
    exact Failure.isOrdinary_misuse _

/-- A failure that another attempt may mend is not an ordinary one. -/
theorem Failure.IsOrdinary.ne {f g : Failure} (h : f.IsOrdinary) (hg : g.isTransient = true) :
    f ≠ g := by
  rintro rfl
  rw [h.isTransient] at hg
  cases hg

theorem Failure.IsOrdinary.result_ne {f : Failure} (h : f.IsOrdinary) {o : Outcome ω α}
    (ho : o.result = .error f) : ∀ g, g.isTransient = true → o.result ≠ .error g := by
  intro g hg herror
  exact h.ne hg (Except.error.inj (ho.symm.trans herror))

theorem Heard.exists_blamesLast {p : Position} {w : ω} {o : Outcome ω (Text × List ToolCall)}
    (h : Heard d system p w o) : ∃ calls, BlamesLast d o calls := by
  cases h with
  | unanswered asked =>
    obtain ⟨calls, hcalls⟩ := exists_blamesLast_ask asked
    exact ⟨calls, hcalls.preceded [.noticed (.entered .awaitingResponse p.iteration)] rfl⟩
  | untold asked turn =>
    obtain ⟨calls, hcalls⟩ := exists_blamesLast_ask asked
    exact ⟨calls, hcalls.passed rfl [.noticed (.entered .awaitingResponse p.iteration)] []
      (List.append_nil _).symm rfl rfl ((isOrdinary_of_replyTurn turn).result_ne rfl)⟩
  | unread asked turn unread =>
    obtain ⟨calls, hcalls⟩ := exists_blamesLast_ask asked
    exact ⟨calls, hcalls.passed rfl [.noticed (.entered .awaitingResponse p.iteration)] _
      rfl rfl rfl ((ToolCall.isOrdinary_of_all unread).result_ne rfl)⟩
  | read asked turn calls_eq =>
    obtain ⟨calls, hcalls⟩ := exists_blamesLast_ask asked
    exact ⟨calls, hcalls.passed rfl [.noticed (.entered .awaitingResponse p.iteration)] _
      rfl rfl rfl nofun⟩

theorem Dispatched.exists_blamesLast {iteration : { n : Nat // 1 ≤ n }} {call : ToolCall} {w : ω}
    {o : Outcome ω ToolReport} (h : Dispatched d iteration call w o) :
    ∃ calls, BlamesLast d o calls := by
  cases h with
  | returned tried written =>
    obtain ⟨calls, hcalls⟩ := exists_blamesLast_trial tried
    exact ⟨calls, hcalls.passed rfl [.noticed (.dispatched call.tool iteration)] []
      (List.append_nil _).symm rfl rfl nofun⟩
  | unwritten tried unwritten =>
    obtain ⟨calls, hcalls⟩ := exists_blamesLast_trial tried
    exact ⟨calls, hcalls.passed rfl [.noticed (.dispatched call.tool iteration)] []
      (List.append_nil _).symm rfl rfl ((ToolValue.isOrdinary_of_encode unwritten).result_ne rfl)⟩
  | @told f w' events tried told =>
    -- what the model is told of is not mended by another attempt
    obtain ⟨calls, hcalls⟩ := exists_blamesLast_trial tried
    have hne : ∀ g, g.isTransient = true → f ≠ g := by
      rintro g hg rfl
      rw [isTransient_of_isTold told] at hg
      cases hg
    refine ⟨calls, hcalls.within [.noticed (.dispatched call.tool iteration)]
      rfl rfl rfl (fun g hg => ?_) (.inl fun g hg => ?_)⟩
    · simp [hne g hg]
    · simp [hne g hg]
  | broken tried untold =>
    obtain ⟨calls, hcalls⟩ := exists_blamesLast_trial tried
    exact ⟨calls, hcalls.preceded [.noticed (.dispatched call.tool iteration)] rfl⟩

theorem Worked.exists_blamesLast {iteration : { n : Nat // 1 ≤ n }} {calls : List ToolCall} {w : ω}
    {o : Outcome ω (List ToolReport)} (h : Worked d iteration calls w o) :
    ∃ calls, BlamesLast d o calls := by
  induction h with
  | none => exact ⟨[], .of_nil rfl, by simp, nofun⟩
  | broken first =>
    obtain ⟨calls, hcalls⟩ := first.exists_blamesLast
    exact ⟨calls, hcalls.preceded [] rfl⟩
  | @reported call rest w w' r events o first others ih =>
    obtain ⟨calls, hcalls⟩ := first.exists_blamesLast
    obtain ⟨calls', hcalls'⟩ := ih
    refine ⟨calls ++ calls', hcalls.followed hcalls' rfl rfl fun f => ?_⟩
    cases o.result <;> simp [Except.map]

/-- The calls of a dialogue, from a position on. -/
theorem Course.exists_blamesLast {left : Nat} {p : Position} {w : ω} {o : Outcome ω DialogueResult}
    (h : Course d system left p w o) : ∃ calls, BlamesLast d o calls := by
  -- the work of an iteration, with the stage that it begins
  have hwork : ∀ {p : Position} {w : ω} {pending : List ToolCall} {o : Outcome ω (List ToolReport)},
      Worked d p.iteration pending w o → ∃ calls, BlamesLast d
        ⟨o.result, o.world, .noticed (.entered .dispatchingTools p.iteration) :: o.events⟩
        calls := by
    intro p w pending o worked
    obtain ⟨calls, hcalls⟩ := worked.exists_blamesLast
    refine ⟨calls, hcalls.within [.noticed (.entered .dispatchingTools p.iteration)]
      (List.append_nil _).symm rfl rfl ?_ (.inr rfl)⟩
    simp
  induction h with
  | unheard heard =>
    obtain ⟨calls, hcalls⟩ := heard.exists_blamesLast
    exact ⟨calls, hcalls.preceded [] rfl⟩
  | @concluded left p w w' text pending events heard last =>
    obtain ⟨calls, hcalls⟩ := heard.exists_blamesLast
    exact ⟨calls, hcalls.passed rfl [] _ rfl rfl (p.dealing?_closing pending) nofun⟩
  | broken heard asks worked =>
    obtain ⟨calls, hcalls⟩ := heard.exists_blamesLast
    obtain ⟨calls', hcalls'⟩ := hwork worked
    exact ⟨calls ++ calls', hcalls.followed hcalls' rfl rfl (by simp)⟩
  | @onward left p w w₁ w₂ text pending events₁ events₂ new o heard asks worked rest ih =>
    obtain ⟨calls, hcalls⟩ := heard.exists_blamesLast
    obtain ⟨calls', hcalls'⟩ := hwork worked
    obtain ⟨calls'', hcalls''⟩ := ih
    -- the work and the rest are one part, which the heard reply stands before
    have hlater : BlamesLast d (Outcome.mk o.result o.world
        ((.noticed (.entered .dispatchingTools p.iteration) :: events₂) ++ o.events))
        (calls' ++ calls'') := hcalls'.followed hcalls'' rfl rfl fun f => Iff.rfl
    exact ⟨calls ++ (calls' ++ calls''), hcalls.followed hlater rfl rfl fun f => Iff.rfl⟩

/-! ### Failures of a dialogue -/

theorem exists_has_of_mem_shownTries {p : RetryPolicy} {α : Type}
    {shown : Except Failure α → List Event} {n : Nat} {failures : List Failure}
    {last : Except Failure α} {e : Event} (h : e ∈ shownTries p.pause shown n failures last) :
    (∃ result, Tries.Has ⟨failures, last⟩ result ∧ e ∈ shown result) ∨ ∃ m f, e ∈ p.pause m f := by
  induction failures generalizing n with
  | nil => exact .inl ⟨last, .inr rfl, h⟩
  | cons f failures ih =>
    rw [shownTries, List.mem_append, List.mem_append] at h
    rcases h with (h | h) | h
    · exact .inl ⟨_, .inl ⟨f, List.mem_cons_self, rfl⟩, h⟩
    · exact .inr ⟨n, f, h⟩
    · rcases ih h with ⟨result, ⟨g, hg, rfl⟩ | rfl, hmem⟩ | hpause
      · exact .inl ⟨_, .inl ⟨g, List.mem_cons_of_mem _ hg, rfl⟩, hmem⟩
      · exact .inl ⟨_, .inr rfl, hmem⟩
      · exact .inr hpause

/-- An event that is a part of a call belongs to one of the calls that account for the events. -/
theorem Accounts.exists_call {events : List Event} {calls : List Call} (h : Accounts d events calls)
    {e : Event} (he : e ∈ events) (hdealing : e.dealing? = some e) :
    ∃ call ∈ calls, e ∈ call.trace d.settings.retry := by
  have hmem : e ∈ events.filterMap Event.dealing? := List.mem_filterMap.2 ⟨e, he, hdealing⟩
  rw [h.trace] at hmem
  exact List.mem_flatMap.1 hmem

/-- What a call comes to is what the tool comes to in some world. -/
theorem Accounts.real_of_called {events : List Event} {calls : List Call}
    (h : Accounts d events calls) {call : ToolCall} {result : Except Failure ToolValue}
    (he : .called call result ∈ events) : ∃ w, ((d.tools call).run w).result = result := by
  obtain ⟨c, hcall, hmem⟩ := h.exists_call he rfl
  have hreal := h.real c hcall
  cases c with
  | model system turns tries =>
    rcases exists_has_of_mem_shownTries hmem with ⟨result', -, hshown⟩ | ⟨m, f, hpause⟩
    · simp at hshown
    · simp [RetryPolicy.pause] at hpause
  | tool call' tries =>
    rcases exists_has_of_mem_shownTries hmem with ⟨result', hhas, hshown⟩ | ⟨m, f, hpause⟩
    · obtain ⟨w, hw⟩ := hreal result' hhas
      obtain ⟨rfl, rfl⟩ : call = call' ∧ result = result' := by simpa using hshown
      exact ⟨w, hw⟩
    · simp [RetryPolicy.pause] at hpause

/-- What another attempt may mend is no bad input. -/
theorem Failure.isInput_of_isTransient {f : Failure} (h : f.isTransient = true) :
    f.isInput = false := by
  have hkind : ∀ k : FailureKind, k.isA "TransientCallError" = true → k.isA "InputError" = false := by
    intro k hk
    cases k with
    | other name =>
      simp only [FailureKind.isA, FailureKind.families, FailureKind.name, List.contains_cons,
        List.contains_nil, Bool.or_false, Bool.or_eq_true, beq_iff_eq] at hk ⊢
      rcases hk with hk | hk
      · rw [← hk]
        decide
      · exact absurd hk (by decide)
    | _ => first | rfl | exact absurd hk (by decide)
  exact hkind _ h

/-- A dialogue does not fail for bad input, if the model does not. -/
theorem Course.isInput_of_error (hreporting : d.Reporting) {left : Nat} {p : Position} {w : ω}
    {o : Outcome ω DialogueResult} (h : Course d system left p w o)
    (hanswered : ∀ f, .answered (.error f) ∈ o.events → f.isInput = false) {f : Failure}
    (hf : o.result = .error f) : f.isInput = false := by
  obtain ⟨calls, hcalls⟩ := h.exists_blamesLast
  obtain ⟨e, hlast, hended⟩ := h.endedBy_of_error hf
  have he := List.mem_of_getLast? hlast
  cases hended with
  | unanswered => exact hanswered f he
  | untold turn => exact (isOrdinary_of_replyTurn turn).isInput
  | @broken call f untold =>
    obtain ⟨w, hw⟩ := hcalls.accounts.real_of_called he
    exact Failure.isInput_of_isTransient (hreporting call w f hw untold)
  | unwritten unwritten => exact (ToolValue.isOrdinary_of_encode unwritten).isInput
  | unread _ _ => exact (Failure.isOrdinary_json _).isInput

end ReleaseNotes
