/-
Dialogues without their retries.

A dialogue skips the failures of another one, if its model and its tools come at once to whatever
those of the other come to after such failures.  It then makes the same calls, needs one attempt for
each of them, and comes to the same result.

Main statements:
* `Skips` — an operation that skips the failures of another one;
* `Skipping` — a dialogue that skips the failures of another one;
* `Resumed` — what such a dialogue makes of a part of the other one;
* `Course.resumed` — the same for the iterations from a position on.
-/
import ReleaseNotes.Proofs.Dialogue.Calls

namespace ReleaseNotes

open Dialogue

variable {ω ω' α : Type} {related : ω → ω' → Prop} {d : Dialogue ω} {d' : Dialogue ω'}
  {system : Text}

/-- An operation that skips the failures of another one.  While the other fails in a way that may be
mended, it has not yet done anything; to everything else it comes in the same way. -/
structure Skips (related : ω → ω' → Prop) (operation : Act ω α) (other : Act ω' α) : Prop where
  failing : ∀ w s, related w s → isFinal (operation.run w).result = false →
    related (operation.run w).world s
  final : ∀ w s, related w s → isFinal (operation.run w).result = true →
    (other.run s).result = (operation.run w).result ∧
      related (operation.run w).world (other.run s).world

/-- A dialogue that skips the failures of another one, and tries nothing twice. -/
structure Skipping (related : ω → ω' → Prop) (d : Dialogue ω) (d' : Dialogue ω') : Prop where
  service : ∀ system turns, Skips related (d.service system turns) (d'.service system turns)
  tools : ∀ call, Skips related (d.tools call) (d'.tools call)
  once : d'.settings.retry.attempts.val = 1

theorem Skips.tried {operation : Act ω α} {other : Act ω' α} (h : Skips related operation other)
    {p : RetryPolicy} {left n : Nat} {w : ω} {s : ω'} {o : Outcome ω α}
    (ho : Tried p retryable operation left n w o) (hs : related w s)
    (hfinal : isFinal o.result = true) :
    (other.run s).result = o.result ∧ related o.world (other.run s).world := by
  -- every attempt but the last one leaves the world where it is
  induction ho with
  | settled _ => exact h.final _ _ hs hfinal
  | @again left n w f o failed worth _ ih =>
    have hworth : f.isTransient = true := worth
    have hnext : related (operation.run w).world s := by
      refine h.failing w s hs ?_
      rw [failed]
      simp [isFinal, hworth]
    exact ih hnext hfinal

/-- The same holds of operations that come to results that these tell, in the same worlds. -/
theorem Skips.of_results {β : Type} {operation : Act ω α} {other : Act ω' α}
    (h : Skips related operation other) {tell : Except Failure α → Except Failure β}
    (htell : ∀ result, isFinal (tell result) = isFinal result) {outer : Act ω β}
    {outer' : Act ω' β}
    (houter : ∀ w, (outer.run w).result = tell (operation.run w).result ∧
      (outer.run w).world = (operation.run w).world)
    (houter' : ∀ s, (outer'.run s).result = tell (other.run s).result ∧
      (outer'.run s).world = (other.run s).world) : Skips related outer outer' := by
  constructor
  · intro w s hs hfailing
    rw [(houter w).1, htell] at hfailing
    rw [(houter w).2]
    exact h.failing w s hs hfailing
  · intro w s hs hfinal
    rw [(houter w).1, htell] at hfinal
    obtain ⟨hresult, hrelated⟩ := h.final w s hs hfinal
    rw [(houter w).1, (houter w).2, (houter' s).1, (houter' s).2, hresult]
    exact ⟨rfl, hrelated⟩

theorem Skips.fail {f : Failure} (hf : f.isTransient = false) :
    Skips related (Act.fail f : Act ω α) (Act.fail f : Act ω' α) := by
  constructor
  · intro w s _ hfailing
    simp [isFinal, hf] at hfailing
  · intro w s hs _
    exact ⟨rfl, hs⟩

theorem isFinal_reported (tool : Text) (result : Except Failure ToolValue) :
    isFinal (Registry.reported tool result) = isFinal result := by
  cases result with
  | ok v => rfl
  | error f =>
    -- what is wrapped is final, and what may be mended is not wrapped
    by_cases hpass : Registry.passesOn f = true
    · simp [Registry.reported, hpass]
    · have hf : f.isTransient = false := by
        rw [Registry.passesOn_iff, not_or] at hpass
        simpa using hpass.1
      have hwrapped : (Registry.wrapped tool f).isTransient = false :=
        Failure.isTransient_eq_false (.inr rfl)
      simp [Registry.reported, hpass, isFinal, hf, hwrapped]

/-- A registry skips the failures of its tools, if these skip their own. -/
theorem Registry.skips_execute {related : ω → ω → Prop} {r : Registry ω}
    (h : ∀ t ∈ r.tools, ∀ fields, Skips related (t.run fields) (t.run fields)) (name : Text)
    (given : Json) : Skips related (r.execute name given) (r.execute name given) := by
  rcases r.execute_eq name given with ⟨f, hf, heq⟩ | ⟨t, ht, fields, heq⟩
  · rw [heq]
    exact .fail hf
  · rw [heq]
    exact (h t ht fields).of_results (isFinal_reported t.name) (runTool_result t fields)
      (runTool_result t fields)

theorem Skipping.question (h : Skipping related d d') (history : List Turn) :
    Skips related (d.question system history) (d'.question system history) := by
  refine (h.service system history).of_results (fun _ => rfl) ?_ ?_
  · intro w
    rw [question_run]
    exact ⟨rfl, rfl⟩
  · intro s
    rw [question_run]
    exact ⟨rfl, rfl⟩

theorem Skipping.trial (h : Skipping related d d') (call : ToolCall) :
    Skips related (d.trial call) (d'.trial call) :=
  (h.tools call).of_results (fun _ => rfl) (fun _ => ⟨rfl, rfl⟩) fun _ => ⟨rfl, rfl⟩

theorem Dialogue.attempt_once (h : d.settings.retry.attempts.val = 1) (operation : Act ω α) :
    d.attempt operation = operation := by
  rw [attempt, RetryPolicy.run, h]
  rfl

theorem Tries.Kept.failures_eq_nil {p : RetryPolicy} (hp : p.attempts.val = 1) {t : Tries α}
    (h : t.Kept p) : t.failures = [] := by
  have hfew := h.few
  rw [hp] at hfew
  exact List.length_eq_zero_iff.1 (by omega)

/-- Two dialogues make the same calls, the second without the failures that the first tries again
on. -/
def SameCalls (d : Dialogue ω) (d' : Dialogue ω') (events events' : List Event) : Prop :=
  ∃ calls : List Call, Accounts d events calls ∧ (∀ c ∈ calls, c.isSettled = true) ∧
    Accounts d' events' (calls.map Call.calm)

theorem SameCalls.nil : SameCalls d d' [] [] :=
  ⟨[], .of_nil rfl, by simp, .of_nil rfl⟩

theorem SameCalls.singleton {events events' : List Event} {c : Call} (h : Accounts d events [c])
    (hsettled : c.isSettled = true) (h' : Accounts d' events' [c.calm]) :
    SameCalls d d' events events' := by
  refine ⟨[c], h, ?_, h'⟩
  intro c' hc
  rw [List.mem_singleton.1 hc]
  exact hsettled

theorem SameCalls.append {first second first' second' : List Event}
    (h : SameCalls d d' first first') (h' : SameCalls d d' second second') :
    SameCalls d d' (first ++ second) (first' ++ second') := by
  obtain ⟨calls, haccounts, hsettled, hcalm⟩ := h
  obtain ⟨calls', haccounts', hsettled', hcalm'⟩ := h'
  refine ⟨calls ++ calls', haccounts.append haccounts', ?_, ?_⟩
  · intro c hc
    rcases List.mem_append.1 hc with hc | hc
    · exact hsettled c hc
    · exact hsettled' c hc
  · rw [List.map_append]
    exact hcalm.append hcalm'

theorem SameCalls.append_right {first first' behind : List Event} (h : SameCalls d d' first first')
    (hbehind : behind.filterMap Event.dealing? = []) :
    SameCalls d d' (first ++ behind) (first' ++ behind) := by
  obtain ⟨calls, haccounts, hsettled, hcalm⟩ := h
  exact ⟨calls, haccounts.append_right hbehind, hsettled, hcalm.append_right hbehind⟩

theorem SameCalls.cons {e : Event} {events events' : List Event} (h : SameCalls d d' events events')
    (he : e.dealing? = none) : SameCalls d d' (e :: events) (e :: events') := by
  obtain ⟨calls, haccounts, hsettled, hcalm⟩ := h
  exact ⟨calls, haccounts.cons he, hsettled, hcalm.cons he⟩

/-- What a dialogue that skips the failures of another one makes of a part of the other: it goes the
same way, to the same result. -/
def Resumed (related : ω → ω' → Prop) (d : Dialogue ω) (d' : Dialogue ω') (o : Outcome ω α)
    (way : Outcome ω' α → Prop) : Prop :=
  ∃ s events, way ⟨o.result, s, events⟩ ∧ related o.world s ∧ SameCalls d d' o.events events

section

variable (hd : Skipping related d d') {w : ω} {s : ω'} (hs : related w s)

include hd hs

theorem Skipping.attempt {operation : Act ω α} {other : Act ω' α}
    (hskips : Skips related operation other) {result : Except Failure α} {w' : ω}
    {events : List Event} (h : (d.attempt operation).run w = ⟨result, w', events⟩)
    (hfinal : isFinal result = true) :
    ∃ s' events', (d'.attempt other).run s = ⟨result, s', events'⟩ ∧ related w' s' := by
  have htried : Tried d.settings.retry retryable operation _ 1 w ((d.attempt operation).run w) :=
    tried_run w
  rw [h] at htried
  obtain ⟨hresult, hrelated⟩ := hskips.tried htried hs hfinal
  refine ⟨_, (other.run s).events, ?_, hrelated⟩
  rw [attempt_once hd.once]
  exact congrArg (Outcome.mk · _ _) hresult

theorem Skipping.ask {history : List Turn} {reply : Json} {w' : ω} {events : List Event}
    (h : (d.ask system history).run w = ⟨.ok reply, w', events⟩) :
    Resumed related d d' ⟨.ok reply, w', events⟩ fun o => (d'.ask system history).run s = o := by
  obtain ⟨s', events', hask, hrelated⟩ := hd.attempt hs (hd.question history) h rfl
  obtain ⟨failures, haccounts⟩ := exists_ask_accounts h
  obtain ⟨failures', haccounts'⟩ := exists_ask_accounts hask
  have hkept : Tries.Kept d'.settings.retry ⟨failures', .ok reply⟩ :=
    haccounts'.kept _ List.mem_cons_self
  obtain rfl : failures' = [] := hkept.failures_eq_nil hd.once
  exact ⟨s', events', hask, hrelated, .singleton haccounts rfl haccounts'⟩

theorem Skipping.attempt_trial {call : ToolCall} {result : Except Failure ToolValue} {w' : ω}
    {events : List Event} (h : (d.attempt (d.trial call)).run w = ⟨result, w', events⟩)
    (hfinal : isFinal result = true) :
    Resumed related d d' ⟨result, w', events⟩
      fun o => (d'.attempt (d'.trial call)).run s = o := by
  obtain ⟨s', events', htrial, hrelated⟩ := hd.attempt hs (hd.trial call) h hfinal
  obtain ⟨failures, haccounts⟩ := exists_trial_accounts h
  obtain ⟨failures', haccounts'⟩ := exists_trial_accounts htrial
  have hkept : Tries.Kept d'.settings.retry ⟨failures', result⟩ :=
    haccounts'.kept _ List.mem_cons_self
  obtain rfl : failures' = [] := hkept.failures_eq_nil hd.once
  exact ⟨s', events', htrial, hrelated, .singleton haccounts hfinal haccounts'⟩

theorem Heard.resumed {p : Position} {text : Text} {calls : List ToolCall} {w' : ω}
    {events : List Event} (h : Heard d system p w ⟨.ok (text, calls), w', events⟩) :
    Resumed related d d' ⟨.ok (text, calls), w', events⟩ (Heard d' system p s) := by
  cases h with
  | read asked turn calls_eq =>
    obtain ⟨s', events', hask, hrelated, hcalls⟩ := hd.ask hs asked
    refine ⟨s', _, .read hask turn calls_eq, hrelated, ?_⟩
    exact (hcalls.cons rfl).append_right rfl

theorem Dispatched.resumed {iteration : { n : Nat // 1 ≤ n }} {call : ToolCall} {r : ToolReport}
    {w' : ω} {events : List Event} (h : Dispatched d iteration call w ⟨.ok r, w', events⟩) :
    Resumed related d d' ⟨.ok r, w', events⟩ (Dispatched d' iteration call s) := by
  cases h with
  | returned tried written =>
    obtain ⟨s', events', htrial, hrelated, hcalls⟩ := hd.attempt_trial hs tried rfl
    refine ⟨s', _, .returned htrial written, hrelated, ?_⟩
    exact hcalls.cons rfl
  | told tried told =>
    -- what the model is told of is not tried again
    have hfinal := isTransient_of_isTold told
    obtain ⟨s', events', htrial, hrelated, hcalls⟩ :=
      hd.attempt_trial hs tried (by simp [isFinal, hfinal])
    refine ⟨s', _, .told htrial told, hrelated, ?_⟩
    exact (hcalls.cons rfl).append_right rfl

end

theorem Worked.resumed (hd : Skipping related d d') {iteration : { n : Nat // 1 ≤ n }}
    {calls : List ToolCall} {w : ω} {s : ω'} (hs : related w s) {o : Outcome ω (List ToolReport)}
    (h : Worked d iteration calls w o) {new : List ToolReport} (ho : o.result = .ok new) :
    Resumed related d d' o (Worked d' iteration calls s) := by
  induction h generalizing s new with
  | none => exact ⟨s, [], .none, hs, .nil⟩
  | broken _ => cases ho
  | @reported call rest w w' r events o first _ ih =>
    obtain ⟨s₁, events₁, hfirst, hrelated₁, hcalls₁⟩ := first.resumed hd hs
    -- all reports are there, so those on the rest of the calls are
    obtain ⟨rest', hresult⟩ : ∃ rest', o.result = .ok rest' := by
      cases hresult : o.result with
      | error f =>
        rw [hresult] at ho
        cases ho
      | ok rest' => exact ⟨rest', rfl⟩
    obtain ⟨s₂, events₂, hrest, hrelated₂, hcalls₂⟩ := ih hrelated₁ hresult
    exact ⟨s₂, _, .reported hfirst hrest, hrelated₂, hcalls₁.append hcalls₂⟩

/-- The iterations of a dialogue that comes to a result: one that skips its failures goes the same
way. -/
theorem Course.resumed (hd : Skipping related d d') {left : Nat} {p : Position} {w : ω} {s : ω'}
    (hs : related w s) {o : Outcome ω DialogueResult} (h : Course d system left p w o)
    {r : DialogueResult} (hr : o.result = .ok r) :
    Resumed related d d' o (Course d' system left p s) := by
  induction h generalizing s with
  | unheard _ | broken _ _ _ => cases hr
  | @concluded left p w w' text calls events heard last =>
    obtain ⟨s', events', hheard, hrelated, hcalls⟩ := heard.resumed hd hs
    refine ⟨s', _, .concluded hheard last, hrelated, hcalls.append_right ?_⟩
    exact p.dealing?_closing calls
  | onward heard asks worked rest ih =>
    -- however many attempts a call took, the worlds are related again behind it
    obtain ⟨s₁, events₁, hheard, hrelated₁, hcalls₁⟩ := heard.resumed hd hs
    obtain ⟨s₂, events₂, hworked, hrelated₂, hcalls₂⟩ := worked.resumed hd hrelated₁ rfl
    obtain ⟨s₃, events₃, hrest, hrelated₃, hcalls₃⟩ := ih hrelated₂ hr
    refine ⟨s₃, _, .onward hheard asks hworked hrest, hrelated₃, ?_⟩
    exact hcalls₁.append ((hcalls₂.append hcalls₃).cons rfl)

end ReleaseNotes
