/-
The calls of a dialogue.

A dialogue deals with the model and with its tools by calls, one after another, and each call is
made of the attempts that the retry policy allows.  All that a dialogue asks, executes and waits for
belongs to one of its calls.

Main statements:
* `Tries`, `Call` — a call with its attempts;
* `Accounts` — some calls account for some events, and their attempts keep to the policy;
* `Accounts.append` — calls one after another;
* `Dialogue.exists_ask_accounts`, `Dialogue.exists_trial_accounts` — the account of one call;
* `Accounts.sleeps` — the waits, told by the failures alone.
-/
import ReleaseNotes.Proofs.Dialogue.Trace
import ReleaseNotes.Proofs.Tool.Execution

namespace ReleaseNotes

open Dialogue

variable {ω : Type} {d : Dialogue ω}

/-- The attempts of a call: the failures of all but the last, and what the last one comes to. -/
structure Tries (α : Type) where
  failures : List Failure
  last : Except Failure α

namespace Tries

variable {α : Type}

/-- What one of the attempts comes to. -/
def Has (t : Tries α) (result : Except Failure α) : Prop :=
  (∃ f ∈ t.failures, result = .error f) ∨ result = t.last

/-- The attempts keep to a policy: one follows another only after a failure that it may mend, there
are not too many of them, and a call is given up for such a failure only after all of them. -/
structure Kept (p : RetryPolicy) (t : Tries α) : Prop where
  few : t.failures.length < p.attempts
  transient : ∀ f ∈ t.failures, f.isTransient = true
  spent : ∀ f, t.last = .error f → f.isTransient = true → t.failures.length + 1 = p.attempts

end Tries

/-- Whether what an attempt comes to is final: no other attempt may mend it. -/
def isFinal {α : Type} : Except Failure α → Bool
  | .ok _ => true
  | .error f => !f.isTransient

/-- What the model is told of is not tried again. -/
theorem Dialogue.isTransient_of_isTold {f : Failure} (h : isTold f = true) :
    f.isTransient = false := by
  refine Failure.isTransient_eq_false ?_
  simpa [isTold] using h

/-- A call of the model or of a tool. -/
inductive Call where
  | model (system : Text) (turns : List Turn) (tries : Tries Json)
  | tool (call : ToolCall) (tries : Tries ToolValue)

namespace Call

/-- The failures that a call was tried again on. -/
def failures : Call → List Failure
  | model _ _ tries => tries.failures
  | tool _ tries => tries.failures

/-- Whether a dialogue goes on after a call: the model has answered, or no other attempt may mend
what the tool came to. -/
def isSettled : Call → Bool
  | model _ _ tries => tries.last.isOk
  | tool _ tries => isFinal tries.last

/-- The call without the failures that it was tried again on. -/
def calm : Call → Call
  | model system turns tries => model system turns ⟨[], tries.last⟩
  | tool call tries => tool call ⟨[], tries.last⟩

/-- The event that tells what a call comes to. -/
def ending : Call → Event
  | model _ _ tries => .answered tries.last
  | tool call tries => .called call tries.last

/-- What a call leaves behind under a policy: each attempt, and the pauses between them. -/
def trace (p : RetryPolicy) : Call → List Event
  | model system turns tries =>
    shownTries p.pause (fun result => [.asked system turns, .answered result]) 1
      tries.failures tries.last
  | tool call tries =>
    shownTries p.pause (fun result => [.called call result]) 1 tries.failures tries.last

/-- The attempts of a call keep to a policy. -/
def Kept (p : RetryPolicy) : Call → Prop
  | model _ _ tries => tries.Kept p
  | tool _ tries => tries.Kept p

/-- Each attempt of a call comes to what the model or the tool comes to in some world. -/
def Real (d : Dialogue ω) : Call → Prop
  | model system turns tries =>
    ∀ result, tries.Has result → ∃ w, ((d.service system turns).run w).result = result
  | tool call tries => ∀ result, tries.Has result → ∃ w, ((d.tools call).run w).result = result

end Call

/-- The event itself, if it is a part of a call: an attempt, or something between two of them. -/
def Event.dealing? : Event → Option Event
  | asked system turns => some (asked system turns)
  | answered reply => some (answered reply)
  | called call result => some (called call result)
  | slept seconds => some (slept seconds)
  | noticed (.retrying n wait f) => some (noticed (.retrying n wait f))
  | _ => none

theorem Event.sleep?_eq_bind_dealing? (e : Event) : e.sleep? = e.dealing?.bind Event.sleep? := by
  cases e with
  | noticed n => cases n <;> rfl
  | _ => rfl

theorem Call.sleeps_trace (p : RetryPolicy) (c : Call) :
    (c.trace p).filterMap Event.sleep? = p.waits c.failures.length := by
  cases c with
  | model _ _ tries => exact sleeps_shownTries p (fun _ => rfl) 1 tries.failures tries.last
  | tool _ tries => exact sleeps_shownTries p (fun _ => rfl) 1 tries.failures tries.last

theorem Dialogue.Position.dealing?_closing (p : Position) (pending : List ToolCall) :
    (p.closing pending).filterMap Event.dealing? = [] := by
  cases pending <;> rfl

/-- Some calls account for some events: they leave behind all of these that are parts of calls. -/
structure Accounts (d : Dialogue ω) (events : List Event) (calls : List Call) : Prop where
  trace : events.filterMap Event.dealing? = calls.flatMap (Call.trace d.settings.retry)
  kept : ∀ c ∈ calls, c.Kept d.settings.retry
  real : ∀ c ∈ calls, c.Real d

namespace Accounts

theorem of_nil {events : List Event} (h : events.filterMap Event.dealing? = []) :
    Accounts d events [] :=
  ⟨h, by simp, by simp⟩

theorem singleton {events : List Event} {c : Call}
    (trace : events.filterMap Event.dealing? = c.trace d.settings.retry)
    (kept : c.Kept d.settings.retry) (real : c.Real d) : Accounts d events [c] := by
  refine ⟨by simpa using trace, ?_, ?_⟩
  · intro c' hc
    rw [List.mem_singleton.1 hc]
    exact kept
  · intro c' hc
    rw [List.mem_singleton.1 hc]
    exact real

theorem append {first second : List Event} {calls calls' : List Call}
    (h : Accounts d first calls) (h' : Accounts d second calls') :
    Accounts d (first ++ second) (calls ++ calls') := by
  refine ⟨?_, ?_, ?_⟩
  · rw [List.filterMap_append, List.flatMap_append, h.trace, h'.trace]
  · intro c hc
    rcases List.mem_append.1 hc with hc | hc
    · exact h.kept c hc
    · exact h'.kept c hc
  · intro c hc
    rcases List.mem_append.1 hc with hc | hc
    · exact h.real c hc
    · exact h'.real c hc

/-- An event that is no part of a call may stand before the others. -/
theorem cons {e : Event} {events : List Event} {calls : List Call}
    (h : Accounts d events calls) (he : e.dealing? = none) : Accounts d (e :: events) calls := by
  refine ⟨?_, h.kept, h.real⟩
  rw [List.filterMap_cons_none he, h.trace]

/-- So some may stand behind the others. -/
theorem append_right {events behind : List Event} {calls : List Call}
    (h : Accounts d events calls) (hbehind : behind.filterMap Event.dealing? = []) :
    Accounts d (events ++ behind) calls := by
  have := append h (of_nil hbehind)
  rwa [List.append_nil] at this

/-- The waits begin anew with each call, and a call waits after each failure. -/
theorem sleeps {events : List Event} {calls : List Call} (h : Accounts d events calls) :
    events.filterMap Event.sleep? =
      calls.flatMap fun c => d.settings.retry.waits c.failures.length := by
  -- every wait is a part of a call
  have hdealing : Event.sleep? = fun e => e.dealing?.bind Event.sleep? :=
    funext Event.sleep?_eq_bind_dealing?
  rw [hdealing, ← List.filterMap_filterMap, h.trace, List.filterMap_flatMap]
  congr 1
  exact funext fun c => c.sleeps_trace _

end Accounts

/-- The calls of the attempts under the retry policy, if an attempt leaves behind what its result
tells. -/
theorem Dialogue.exists_tries {α : Type} {operation : Act ω α} {w w' : ω}
    {result : Except Failure α} {events : List Event}
    (h : (d.attempt operation).run w = ⟨result, w', events⟩) (told : Except Failure α → List Event)
    (htold : ∀ w, (operation.run w).events.filterMap Event.dealing? =
      told (operation.run w).result) :
    ∃ failures, Tries.Kept d.settings.retry ⟨failures, result⟩ ∧
      (∀ r, Tries.Has ⟨failures, result⟩ r → ∃ w, (operation.run w).result = r) ∧
      events.filterMap Event.dealing? =
        shownTries d.settings.retry.pause told 1 failures result := by
  have htried : Tried d.settings.retry retryable operation (d.attempts - 1) 1 w
      ((d.attempt operation).run w) := tried_run w
  rw [h] at htried
  obtain ⟨failures, hfew, htransient, hspent, hmet, hview⟩ := htried.exists_tries
  -- one attempt is made in any case, so the others are one less than all
  have hone : 1 ≤ d.settings.retry.attempts.val := d.one_le_attempts
  have hfew : failures.length ≤ d.settings.retry.attempts.val - 1 := hfew
  refine ⟨failures, ⟨?_, htransient, ?_⟩, hmet, ?_⟩
  · show failures.length < d.settings.retry.attempts.val
    omega
  · intro f hf hr
    have hall : failures.length = d.settings.retry.attempts.val - 1 := hspent f hf hr
    show failures.length + 1 = d.settings.retry.attempts.val
    omega
  · exact hview _ _ told htold

/-- The account of a question that is asked until it is answered. -/
theorem Dialogue.exists_ask_accounts {system : Text} {history : List Turn} {w w' : ω}
    {result : Except Failure Json} {events : List Event}
    (h : (d.ask system history).run w = ⟨result, w', events⟩) :
    ∃ failures, Accounts d events [.model system history ⟨failures, result⟩] := by
  obtain ⟨failures, hkept, hreal, htrace⟩ := exists_tries h
    (fun result => [.asked system history, .answered result]) fun w => by
      rw [question_run]
      simp [Event.dealing?]
  refine ⟨failures, .singleton htrace hkept fun r hr => ?_⟩
  obtain ⟨w, hw⟩ := hreal r hr
  rw [question_run] at hw
  exact ⟨w, hw⟩

/-- The account of a tool call. -/
theorem Dialogue.exists_trial_accounts {call : ToolCall} {w w' : ω}
    {result : Except Failure ToolValue} {events : List Event}
    (h : (d.attempt (d.trial call)).run w = ⟨result, w', events⟩) :
    ∃ failures, Accounts d events [.tool call ⟨failures, result⟩] := by
  obtain ⟨failures, hkept, hreal, htrace⟩ := exists_tries h
    (fun result => [.called call result]) fun w => by
      rw [trial_run]
      simp [Event.dealing?]
  refine ⟨failures, .singleton htrace hkept fun r hr => ?_⟩
  obtain ⟨w, hw⟩ := hreal r hr
  rw [trial_run] at hw
  exact ⟨w, hw⟩

end ReleaseNotes
