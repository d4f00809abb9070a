/-
Requests over a wire.

A wire brings an answer to every request, and what it answers depends on the request and on the
world.  Any sequence of answers to the same request is that of some wire.  An operation that sends
one request over a wire comes to what is made of the answer; under a retry policy it sends the same
request again, as long as the answers are ones that may be better the next time.

Main statements:
* `Wire`, `Wire.answer` — a wire, and its answers to a request that is sent again and again;
* `Wire.answer_scripted` — any sequence of answers;
* `Sends` — an operation that sends one request;
* `Sends.run_row` — such an operation under a policy;
* `Sends.run_passing`, `Sends.run_settled` — the two ways for it to end.
-/
import Mathlib.Tactic.Choose
import ReleaseNotes.GitHub.Client
import ReleaseNotes.Proofs.Retry.Rows

namespace ReleaseNotes

variable {ω α β : Type}

/-- Whatever brings an answer to a request. -/
abbrev Wire (ω : Type) := WebRequest → ω → WebAnswer × ω

namespace Wire

/-- The way to a host over a wire. -/
def transport (wire : Wire ω) : Transport ω := fun r w => ⟨.ok (wire r w).1, (wire r w).2, []⟩

@[simp] theorem transport_run (wire : Wire ω) (r : WebRequest) (w : ω) :
    (wire.transport r).run w = ⟨.ok (wire r w).1, (wire r w).2, []⟩ := rfl

/-- The answer to a request that was sent so many times before. -/
def answer (wire : Wire ω) (r : WebRequest) (w : ω) (i : Nat) : WebAnswer :=
  (wire r ((wire.transport r).worldAt w i)).1

/-- The wire whose answers are those of a sequence. -/
def scripted : Wire (Nat → WebAnswer) := fun _ script => (script 0, fun i => script (i + 1))

theorem worldAt_scripted (r : WebRequest) (script : Nat → WebAnswer) (i : Nat) :
    (scripted.transport r).worldAt script i = fun j => script (i + j) := by
  induction i with
  | zero => simp
  | succ i ih =>
    show (scripted r ((scripted.transport r).worldAt script i)).2 = _
    rw [ih]
    funext j
    show script (i + (j + 1)) = script (i + 1 + j)
    congr 1
    omega

@[simp] theorem answer_scripted (r : WebRequest) (script : Nat → WebAnswer) (i : Nat) :
    scripted.answer r script i = script i := by
  rw [answer, worldAt_scripted]
  rfl

end Wire

/-- Two operations that leave the same worlds do so however often they are done. -/
theorem Act.worldAt_eq {operation : Act ω α} {other : Act ω β}
    (h : ∀ w, (operation.run w).world = (other.run w).world) (w : ω) (i : Nat) :
    operation.worldAt w i = other.worldAt w i := by
  induction i with
  | zero => rfl
  | succ i ih => rw [worldAt, worldAt, ih, h]

/-- An operation that sends one request over a wire, and what it makes of the answer. -/
structure Sends (operation : Act ω α) (wire : Wire ω) (r : WebRequest)
    (tell : WebAnswer → Except Failure α) : Prop where
  result : ∀ w, (operation.run w).result = tell (wire r w).1
  world : ∀ w, (operation.run w).world = (wire r w).2
  requests : ∀ w, (operation.run w).requests = [r]
  sleeps : ∀ w, (operation.run w).sleeps = []

namespace Sends

variable {operation : Act ω α} {wire : Wire ω} {r : WebRequest}
  {tell : WebAnswer → Except Failure α}

theorem nth_result (h : Sends operation wire r tell) (w : ω) (i : Nat) :
    (operation.nth w i).result = tell (wire.answer r w i) := by
  have hworld : operation.worldAt w i = (wire.transport r).worldAt w i := Act.worldAt_eq h.world w i
  rw [Act.nth, h.result, Wire.answer, hworld]

/-- An operation under a policy whose answers are passing so many times: the answer that comes next
settles it, or it is the last one that the policy allows. -/
theorem run_row (h : Sends operation wire r tell) (p : RetryPolicy) (retryable : Failure → Bool)
    (m : Nat) (w : ω)
    (passing : ∀ i < m, ∃ f, tell (wire.answer r w i) = .error f ∧ retryable f = true)
    (few : m < p.attempts.val)
    (last : ∀ f, tell (wire.answer r w m) = .error f → retryable f = true →
      m + 1 = p.attempts.val) :
    let o := (p.run retryable operation).run w
    o.result = tell (wire.answer r w m) ∧ o.requests = List.replicate (m + 1) r ∧
      o.sleeps = p.waits m := by
  -- the failures by the numbers of their attempts, an arbitrary one where there is none
  have hfailure : ∀ i, ∃ f, i < m → tell (wire.answer r w i) = .error f ∧ retryable f = true := by
    intro i
    by_cases hi : i < m
    · obtain ⟨f, hf⟩ := passing i hi
      exact ⟨f, fun _ => hf⟩
    · exact ⟨.missingItem, fun hlt => absurd hlt hi⟩
  choose failure hfailure using hfailure
  have hrun := @RetryPolicy.run_row _ _ p retryable operation m w failure
    (fun i hi => by
      rw [h.nth_result]
      exact (hfailure i hi).1)
    (fun i hi => (hfailure i hi).2) few
    (fun f hf hr => by
      rw [h.nth_result] at hf
      exact last f hf hr)
  have hrequests : ∀ i, (operation.nth w i).events.filterMap Event.request? = [r] :=
    fun i => h.requests _
  have hsleeps : ∀ i, (operation.nth w i).events.filterMap Event.sleep? = [] :=
    fun i => h.sleeps _
  have hrow : ∀ n, (p.row (operation.nth w) failure n m).filterMap Event.request? =
      (List.replicate m [r]).flatten := by
    intro n
    exact filterMap_row (fun i _ => hrequests i) fun _ _ => rfl
  intro o
  refine ⟨?_, ?_, ?_⟩
  · show ((p.run retryable operation).run w).result = _
    rw [hrun, h.nth_result]
  · show ((p.run retryable operation).run w).events.filterMap Event.request? = _
    rw [hrun, List.filterMap_append, hrow, hrequests]
    simp [List.replicate_succ']
  · show ((p.run retryable operation).run w).events.filterMap Event.sleep? = _
    rw [hrun, List.filterMap_append, sleeps_row fun i _ => hsleeps i, hsleeps, List.append_nil]
    rfl

/-- All attempts that the policy allows meet passing answers. -/
theorem run_passing (h : Sends operation wire r tell) (p : RetryPolicy)
    (retryable : Failure → Bool) (w : ω)
    (passing : ∀ i < p.attempts.val,
      ∃ f, tell (wire.answer r w i) = .error f ∧ retryable f = true) :
    let o := (p.run retryable operation).run w
    o.result = tell (wire.answer r w (p.attempts - 1)) ∧
      o.requests = List.replicate p.attempts r ∧ o.sleeps = p.waits (p.attempts - 1) := by
  have hone : 1 ≤ p.attempts.val := p.attempts.property
  have hrow := h.run_row p retryable (p.attempts - 1) w (fun i hi => passing i (by omega))
    (by omega) fun _ _ _ => by omega
  rwa [Nat.sub_add_cancel hone] at hrow

/-- Some attempts meet passing answers, and the next one settles the operation. -/
theorem run_settled (h : Sends operation wire r tell) (p : RetryPolicy)
    (retryable : Failure → Bool) {k : Nat} (hk : k < p.attempts.val) (w : ω)
    (passing : ∀ i < k, ∃ f, tell (wire.answer r w i) = .error f ∧ retryable f = true)
    (settled : ∀ f, tell (wire.answer r w k) = .error f → retryable f = false) :
    let o := (p.run retryable operation).run w
    o.result = tell (wire.answer r w k) ∧ o.requests = List.replicate (k + 1) r ∧
      o.sleeps = p.waits k := by
  refine h.run_row p retryable k w passing hk fun f hf hr => ?_
  rw [settled f hf] at hr
  cases hr

end Sends

end ReleaseNotes
