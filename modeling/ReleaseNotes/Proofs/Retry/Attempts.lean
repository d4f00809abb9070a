/-
The attempts of a call.

A call under a retry policy, seen as the list of its attempts: each one but the last fails in a way
that is worth another attempt, and between two of them stand a notice and a wait.

Main statements:
* `Event.Shallow` — a view of events that shows the attempts and not the retries;
* `Tried` — how the attempts of a call go, from one on;
* `tried_run` — a call under a policy goes that way;
* `Tried.exists_tries` — the failures that a call was tried again on, and what a view shows of it,
  attempt by attempt;
* `Tried.exists_failures` — the same for a view that shows nothing of the retries;
* `Tried.filterMap_congr` — two views that show the same of a call;
* `Tried.getLast?_events` — the last event of a call.
-/
import ReleaseNotes.Retry.Run

namespace ReleaseNotes

variable {ω α : Type}

/-- A view of events that shows nothing of retries, and nothing of what stands inside a call. -/
structure Event.Shallow {β : Type} (view : Event → Option β) : Prop where
  inside : ∀ e, view (.inside e) = none
  retrying : ∀ n x f, view (.noticed (.retrying n x f)) = none
  slept : ∀ x, view (.slept x) = none

theorem Event.Shallow.filterMap_inside {β : Type} {view : Event → Option β}
    (h : Event.Shallow view) (events : List Event) :
    (events.map .inside).filterMap view = [] := by
  rw [List.filterMap_map, List.filterMap_eq_nil_iff]
  intro e _
  exact h.inside e

/-- What stands between attempt number `n`, which fails, and the next one. -/
def RetryPolicy.pause (p : RetryPolicy) (n : Nat) (f : Failure) : List Event :=
  [.noticed (.retrying n (p.delay n) f), .slept (p.delay n)]

/-- The waits of a call that is tried again so many times. -/
def RetryPolicy.waits (p : RetryPolicy) (n : Nat) : List Float := (List.range' 1 n).map p.delay

/-- What is shown of attempts from number `n` on: each failure and the pause behind it, and at last
what the call comes to. -/
def shownTries {β : Type} (pause : Nat → Failure → List β) (shown : Except Failure α → List β) :
    Nat → List Failure → Except Failure α → List β
  | _, [], last => shown last
  | n, f :: failures, last =>
    shown (.error f) ++ pause n f ++ shownTries pause shown (n + 1) failures last

theorem shownTries_of_pause_nil {β : Type} (shown : Except Failure α → List β) (n : Nat)
    (failures : List Failure) (last : Except Failure α) :
    shownTries (fun _ _ => []) shown n failures last =
      failures.flatMap (fun f => shown (.error f)) ++ shown last := by
  induction failures generalizing n with
  | nil => rfl
  | cons f failures ih =>
    rw [shownTries, ih, List.append_nil, List.flatMap_cons, List.append_assoc]

theorem sleeps_shownTries (p : RetryPolicy) {shown : Except Failure α → List Event}
    (h : ∀ result, (shown result).filterMap Event.sleep? = []) (n : Nat) (failures : List Failure)
    (last : Except Failure α) :
    (shownTries p.pause shown n failures last).filterMap Event.sleep? =
      (List.range' n failures.length).map p.delay := by
  induction failures generalizing n with
  | nil => exact h last
  | cons f failures ih =>
    rw [shownTries, List.filterMap_append, List.filterMap_append, h, ih, List.length_cons,
      List.range'_succ, List.map_cons]
    rfl

/-- How the attempts of a call go, from attempt `n` on with so many left after it: from a world to
an outcome. -/
inductive Tried (p : RetryPolicy) (retryable : Failure → Bool) (operation : Act ω α) :
    Nat → Nat → ω → Outcome ω α → Prop
  /-- The attempt settles the call: it succeeds, or its failure is not worth another attempt, or no
  attempt is left. -/
  | settled {left n : Nat} {w : ω}
      (last : ∀ f, (operation.run w).result = .error f → retryable f = true → left = 0) :
      Tried p retryable operation left n w (operation.run w)
  /-- The attempt fails, and another one follows. -/
  | again {left n : Nat} {w : ω} {f : Failure} {o : Outcome ω α}
      (failed : (operation.run w).result = .error f) (worth : retryable f = true)
      (rest : Tried p retryable operation left (n + 1) (operation.run w).world o) :
      Tried p retryable operation (left + 1) n w
        ⟨o.result, o.world, (operation.run w).events ++
          [.noticed (.retrying n (p.delay n) f), .slept (p.delay n)] ++ o.events⟩

section

variable {p : RetryPolicy} {retryable : Failure → Bool} {operation : Act ω α}

theorem tried_attemptFrom (left n : Nat) (w : ω) :
    Tried p retryable operation left n w ((p.attemptFrom retryable operation left n).run w) := by
  -- by the attempts that are left: a failure that is worth another one is met by the rest
  induction left generalizing n w with
  | zero => exact .settled fun _ _ _ => rfl
  | succ left ih =>
    rw [RetryPolicy.attemptFrom, Act.rescue_run]
    rcases h : operation.run w with ⟨result, w', events⟩
    have hrun : (operation.run w).result = result := by rw [h]
    cases result with
    | ok a =>
      have : Tried p retryable operation (left + 1) n w (operation.run w) :=
        .settled fun f hf => by rw [hrun] at hf; cases hf
      rwa [h] at this
    | error f =>
      by_cases hf : retryable f = true
      · have := Tried.again (p := p) hrun hf (ih (n + 1) _)
        simpa [h, hf, Act.bind_run, Act.notice] using this
      · have : Tried p retryable operation (left + 1) n w (operation.run w) :=
          .settled fun g hg hr => by
            rw [hrun] at hg
            cases hg
            exact absurd hr hf
        simpa [h, hf] using this

/-- A call under a policy is a sequence of attempts, the first of them number one. -/
theorem tried_run (w : ω) :
    Tried p retryable operation (p.attempts.val - 1) 1 w ((p.run retryable operation).run w) :=
  tried_attemptFrom _ _ _

/-- The failures that a call was tried again on, from attempt `n` on with so many left after it.
Each attempt that failed came to such a failure, only a call that used all its attempts up ends with
one, and whatever a view shows of an attempt, it shows of the call attempt by attempt. -/
theorem Tried.exists_tries {left n : Nat} {w : ω} {o : Outcome ω α}
    (h : Tried p retryable operation left n w o) :
    ∃ failures : List Failure, failures.length ≤ left ∧ (∀ f ∈ failures, retryable f = true) ∧
      (∀ f, o.result = .error f → retryable f = true → failures.length = left) ∧
      (∀ result, (∃ f ∈ failures, result = .error f) ∨ result = o.result →
        ∃ w, (operation.run w).result = result) ∧
      ∀ (β : Type) (view : Event → Option β) (shown : Except Failure α → List β),
        (∀ w, (operation.run w).events.filterMap view = shown (operation.run w).result) →
        o.events.filterMap view =
          shownTries (fun n f => (p.pause n f).filterMap view) shown n failures o.result := by
  induction h with
  | @settled left n w last =>
    refine ⟨[], Nat.zero_le _, by simp, fun f hf hr => (last f hf hr).symm, ?_, ?_⟩
    · rintro result (⟨f, hf, -⟩ | rfl)
      · cases hf
      · exact ⟨w, rfl⟩
    · intro β view shown hview
      exact hview w
  | @again left n w f o failed worth _ ih =>
    obtain ⟨failures, hlength, hworth, hexhausted, hmet, hviews⟩ := ih
    refine ⟨f :: failures, by simpa using hlength, by simpa [worth] using hworth, ?_, ?_, ?_⟩
    · intro g hg hr
      rw [List.length_cons, hexhausted g hg hr]
    · rintro result (⟨g, hg, rfl⟩ | rfl)
      · rcases List.mem_cons.1 hg with rfl | hg
        · exact ⟨w, failed⟩
        · exact hmet _ (.inl ⟨g, hg, rfl⟩)
      · exact hmet _ (.inr rfl)
    · intro β view shown hview
      have hfirst := hview w
      rw [failed] at hfirst
      rw [List.filterMap_append, List.filterMap_append, hfirst, hviews β view shown hview]
      rfl

/-- The failures that a call was tried again on, and what a view of the events shows of them, as
long as it shows of an attempt what its result tells, and nothing of the retries. -/
theorem Tried.exists_failures {left n : Nat} {w : ω} {o : Outcome ω α}
    (h : Tried p retryable operation left n w o) :
    ∃ failures : List Failure, failures.length ≤ left ∧ (∀ f ∈ failures, retryable f = true) ∧
      ∀ (β : Type) (view : Event → Option β) (shown : Except Failure α → List β),
        Event.Shallow view →
        (∀ w, (operation.run w).events.filterMap view = shown (operation.run w).result) →
        o.events.filterMap view =
          failures.flatMap (fun f => shown (.error f)) ++ shown o.result := by
  obtain ⟨failures, hlength, hworth, -, -, hviews⟩ := h.exists_tries
  refine ⟨failures, hlength, hworth, fun β view shown hshallow hview => ?_⟩
  have hpause : (fun n f => (p.pause n f).filterMap view) = fun _ _ => [] := by
    funext n f
    simp [RetryPolicy.pause, hshallow.retrying, hshallow.slept]
  rw [hviews β view shown hview, hpause, shownTries_of_pause_nil]

/-- Two views that show the same of every attempt and of every pause show the same of a call. -/
theorem Tried.filterMap_congr {β : Type} {view view' : Event → Option β}
    (hattempt : ∀ w, (operation.run w).events.filterMap view =
      (operation.run w).events.filterMap view')
    (hpause : ∀ n f, (p.pause n f).filterMap view = (p.pause n f).filterMap view')
    {left n : Nat} {w : ω} {o : Outcome ω α} (h : Tried p retryable operation left n w o) :
    o.events.filterMap view = o.events.filterMap view' := by
  induction h with
  | settled _ => exact hattempt _
  | again failed worth _ ih =>
    simp only [List.filterMap_append]
    rw [hattempt, ih, ← RetryPolicy.pause, hpause]

/-- The last event of a call is the one that ends its last attempt. -/
theorem Tried.getLast?_events {left n : Nat} {w : ω} {o : Outcome ω α}
    (h : Tried p retryable operation left n w o) (tell : Except Failure α → Event)
    (htell : ∀ w, (operation.run w).events.getLast? = some (tell (operation.run w).result)) :
    o.events.getLast? = some (tell o.result) := by
  induction h with
  | settled _ => exact htell _
  | again _ _ _ ih => rw [List.getLast?_append, ih, Option.some_or]

end

end ReleaseNotes
