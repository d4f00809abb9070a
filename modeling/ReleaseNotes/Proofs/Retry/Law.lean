/-
The law of a policy.

An operation is any sequence of outcomes, one for each attempt.  A call under a policy makes
attempts up to the first outcome that settles it, and no more than the policy allows; it comes to
the outcome of its last attempt.  Between two attempts it tells of the failure of the first one and
waits, and how long it waits is told by the policy and the number of the attempt alone.

Main statements:
* `Act.counted` — an operation that counts its runs;
* `RetryPolicy.Settles`, `RetryPolicy.IsSettling` — results that settle a call, and the first
  attempt that has one;
* `RetryPolicy.Governs` — how a call goes whose attempts have these outcomes;
* `RetryPolicy.delay_add_one` — how long the waits are;
* `RetryPolicy.run_governed` — calls under a policy.
-/
import Mathlib.Data.Nat.Find
import Mathlib.Tactic.ByContra
import ReleaseNotes.Proofs.Retry.Rows

namespace ReleaseNotes

variable {ω α : Type}

/-! ### Counted runs -/

/-- An operation that counts its runs. -/
def Act.counted (operation : Act ω α) : Act (ω × Nat) α := fun w =>
  let o := operation.run w.1
  ⟨o.result, (o.world, w.2 + 1), o.events⟩

theorem Act.counted_worldAt (operation : Act ω α) (w : ω) (i : Nat) :
    operation.counted.worldAt (w, 0) i = (operation.worldAt w i, i) := by
  induction i with
  | zero => rfl
  | succ i ih =>
    rw [worldAt, ih]
    rfl

theorem Act.counted_nth (operation : Act ω α) (w : ω) (i : Nat) :
    operation.counted.nth (w, 0) i =
      ⟨(operation.nth w i).result, (operation.worldAt w (i + 1), i + 1),
        (operation.nth w i).events⟩ := by
  rw [nth, counted_worldAt]
  rfl

/-! ### What is told of a call -/

/-- The record of an event, if it tells of another attempt. -/
def Event.retryRecord? (e : Event) : Option LogRecord :=
  (e.notice?.map Notice.record).filter fun r => r.event = Text.ofString "call_retrying"

/-- The records that tell of other attempts, in order. -/
def Outcome.retryRecords (o : Outcome ω α) : List LogRecord := o.events.filterMap Event.retryRecord?

theorem retryRecords_row {p : RetryPolicy} {outcome : Nat → Outcome ω α}
    {failure : Nat → Failure} {m : Nat} (hattempt : ∀ i < m, (outcome i).retryRecords = []) :
    (p.row outcome failure 1 m).filterMap Event.retryRecord? =
      (List.range m).map fun i =>
        (Notice.retrying (i + 1) (p.delay (i + 1)) (failure i)).record := by
  have hpause : ∀ n f, (p.pause n f).filterMap Event.retryRecord? =
      [(Notice.retrying n (p.delay n) f).record] := by
    intro n f
    have hnoticed : Event.retryRecord? (.noticed (.retrying n (p.delay n) f)) =
        some (Notice.retrying n (p.delay n) f).record := by
      simp [Event.retryRecord?, Event.notice?, Notice.record]
    rw [RetryPolicy.pause, List.filterMap_cons_some hnoticed]
    rfl
  rw [filterMap_row_of_nil hattempt, List.map_eq_flatMap]
  refine List.flatMap_congr fun i _ => ?_
  rw [hpause, Nat.add_comm]

/-! ### Settling attempts -/

namespace RetryPolicy

/-- A result settles a call unless it is a failure that is worth another attempt. -/
def Settles (retryable : Failure → Bool) (result : Except Failure α) : Prop :=
  ∀ f, result = .error f → retryable f = false

theorem not_settles_iff {retryable : Failure → Bool} {result : Except Failure α} :
    ¬ Settles retryable result ↔ ∃ f, result = .error f ∧ retryable f = true := by
  simp [Settles]

/-- The number of the first attempt that settles a call.  Attempts are counted from one. -/
structure IsSettling (retryable : Failure → Bool) (outcome : Nat → Outcome ω α) (k : Nat) :
    Prop where
  counted : 1 ≤ k
  settles : Settles retryable (outcome (k - 1)).result
  first : ∀ i < k - 1, ¬ Settles retryable (outcome i).result

section

variable {retryable : Failure → Bool} {outcome : Nat → Outcome ω α}

/-- Attempts that end with the first settling one, or with the last one that is allowed. -/
theorem IsSettling.min_eq {k m n : Nat} (h : IsSettling retryable outcome k)
    (before : ∀ i < m, ¬ Settles retryable (outcome i).result) (few : m < n)
    (last : Settles retryable (outcome m).result ∨ m + 1 = n) : m + 1 = min k n := by
  have hcounted : 1 ≤ k := h.counted
  have hle : m ≤ k - 1 := by
    by_contra hlt
    exact before (k - 1) (by omega) h.settles
  rcases last with hsettles | hn
  · have hge : k - 1 ≤ m := by
      by_contra hlt
      exact h.first m (by omega) hsettles
    omega
  · omega

/-- The attempts up to the first one that settles a call, or up to the last one that is allowed. -/
theorem exists_last (retryable : Failure → Bool) (outcome : Nat → Outcome ω α) {n : Nat}
    (hn : 1 ≤ n) :
    ∃ m < n, (∀ i < m, ¬ Settles retryable (outcome i).result) ∧
      (Settles retryable (outcome m).result ∨ m + 1 = n) := by
  classical
  have hend : ∃ i, Settles retryable (outcome i).result ∨ i + 1 = n := ⟨n - 1, .inr (by omega)⟩
  have hle : Nat.find hend ≤ n - 1 := Nat.find_min' hend (.inr (by omega))
  refine ⟨Nat.find hend, by omega, fun i hi => ?_, Nat.find_spec hend⟩
  exact fun hsettles => Nat.find_min hend hi (.inl hsettles)

theorem exists_failure {m : Nat} (before : ∀ i < m, ¬ Settles retryable (outcome i).result) :
    ∃ failure : Nat → Failure, ∀ i < m,
      (outcome i).result = .error (failure i) ∧ retryable (failure i) = true := by
  have hfailed : ∀ i, ∃ f, i < m → (outcome i).result = .error f ∧ retryable f = true := by
    intro i
    by_cases hi : i < m
    · obtain ⟨f, hf⟩ := not_settles_iff.1 (before i hi)
      exact ⟨f, fun _ => hf⟩
    · exact ⟨.missingItem, fun hlt => absurd hlt hi⟩
  exact Classical.skolem.1 hfailed

end

/-- How often a call runs its operation. -/
def runs (p : RetryPolicy) (retryable : Failure → Bool) (operation : Act ω α) (w : ω) : Nat :=
  ((p.run retryable operation.counted).run (w, 0)).world.2

/-! ### Waits -/

/-- Whether the wait behind so many others is cut to the longest one. -/
def isCapped (p : RetryPolicy) (j : Nat) : Bool :=
  isBeyond p.initialDelay.val p.backoffFactor.val j.toFloat ||
    (p.backoffFactor.val.pow j.toFloat).isInf && !p.backoffFactor.val.isInf

/-- The first wait is the initial one, and each other wait is that times a power of the factor, up
to the longest one. -/
theorem delay_add_one (p : RetryPolicy) (j : Nat) :
    p.delay (j + 1) =
      if p.isCapped j then longest
      else clamp (p.initialDelay.val * p.backoffFactor.val.pow j.toFloat) := by
  unfold delay isCapped
  rw [Nat.add_sub_cancel]
  dsimp only
  cases isBeyond p.initialDelay.val p.backoffFactor.val j.toFloat with
  | true => rfl
  | false => rfl

/-- Fewer waits are the first ones of more. -/
theorem waits_prefix (p : RetryPolicy) {m n : Nat} (h : m ≤ n) : p.waits m <+: p.waits n := by
  obtain ⟨k, rfl⟩ := Nat.exists_eq_add_of_le h
  rw [waits, waits, ← List.range'_append_1, List.map_append]
  exact List.prefix_append _ _

/-! ### Calls -/

/-- How a call under a policy goes, with so many runs of its operation, when its attempts have these
outcomes. -/
structure Governs (p : RetryPolicy) (retryable : Failure → Bool)
    (outcome : Nat → Outcome ω α) (runs : Nat) (o : Outcome ω α) : Prop where
  /-- There are as many runs as it takes to settle the call, as far as they are allowed. -/
  runs_of_settling : ∀ k, IsSettling retryable outcome k → runs = min k p.attempts
  /-- All runs that are allowed are made if none of them would ever settle the call. -/
  runs_of_unsettled : (∀ k, ¬ IsSettling retryable outcome k) → runs = p.attempts
  /-- A call that is settled in time comes to what the settling attempt comes to. -/
  settled : ∀ k ≤ p.attempts.val, IsSettling retryable outcome k →
    o.result = (outcome (k - 1)).result
  /-- Any other call comes to the failure of the last attempt that is allowed. -/
  exhausted : (∀ k ≤ p.attempts.val, ¬ IsSettling retryable outcome k) →
    ∃ f, (outcome (p.attempts - 1)).result = .error f ∧ retryable f = true ∧ o.result = .error f
  /-- The world is left as the last attempt leaves it. -/
  world : o.world = (outcome (runs - 1)).world
  /-- Between two attempts stand the notice of the failure of the first one and the wait behind it,
  and they stand nowhere else.  If no attempt tells of others itself, this is all that is told. -/
  tries : ∃ failure : Nat → Failure,
    (∀ j < runs - 1, (outcome j).result = .error (failure j)) ∧
    o.events = p.row outcome failure 1 (runs - 1) ++ (outcome (runs - 1)).events ∧
    ((∀ j < runs, (outcome j).retryRecords = []) →
      o.retryRecords = (List.range (runs - 1)).map fun j =>
        (Notice.retrying (j + 1) (p.delay (j + 1)) (failure j)).record)
  /-- If no attempt waits itself, the waits are those of the policy. -/
  sleeps : (∀ j < runs, (outcome j).sleeps = []) → o.sleeps = p.waits (runs - 1)

theorem governs_row {p : RetryPolicy} {retryable : Failure → Bool} {outcome : Nat → Outcome ω α}
    {failure : Nat → Failure} {m : Nat}
    (before : ∀ i < m, (outcome i).result = .error (failure i) ∧ retryable (failure i) = true)
    (few : m < p.attempts.val)
    (last : Settles retryable (outcome m).result ∨ m + 1 = p.attempts.val) :
    p.Governs retryable outcome (m + 1)
      ⟨(outcome m).result, (outcome m).world,
        p.row outcome failure 1 m ++ (outcome m).events⟩ := by
  have hbefore : ∀ i < m, ¬ Settles retryable (outcome i).result :=
    fun i hi => not_settles_iff.2 ⟨failure i, before i hi⟩
  have hsettling : Settles retryable (outcome m).result → IsSettling retryable outcome (m + 1) :=
    fun hm => ⟨by omega, hm, hbefore⟩
  refine
    { runs_of_settling := fun k hk => hk.min_eq hbefore few last
      runs_of_unsettled := fun hnone => ?_
      settled := fun k hle hk => ?_
      exhausted := fun hnone => ?_
      world := rfl
      tries := ⟨failure, fun j hj => (before j hj).1, rfl, fun hquiet => ?_⟩
      sleeps := fun hquiet => ?_ }
  · rcases last with hm | hm
    · exact absurd (hsettling hm) (hnone _)
    · exact hm
  · have hruns := hk.min_eq hbefore few last
    have hm : m = k - 1 := by omega
    rw [hm]
  · have hm : ¬ Settles retryable (outcome m).result :=
      fun hm => hnone _ (by omega) (hsettling hm)
    have hlast : m = p.attempts.val - 1 := by
      rcases last with hsettles | hlast
      · exact absurd hsettles hm
      · omega
    obtain ⟨f, hf, hworth⟩ := not_settles_iff.1 hm
    exact ⟨f, hlast ▸ hf, hworth, hf⟩
  · have hrow : (p.row outcome failure 1 m).filterMap Event.retryRecord? = _ :=
      retryRecords_row fun i hi => hquiet i (by omega)
    rw [Outcome.retryRecords, List.filterMap_append, hrow, ← Outcome.retryRecords,
      hquiet m (by omega), List.append_nil]
    rfl
  · have hrow : (p.row outcome failure 1 m).filterMap Event.sleep? = _ :=
      sleeps_row fun i hi => hquiet i (by omega)
    rw [Outcome.sleeps, List.filterMap_append, hrow, ← Outcome.sleeps, hquiet m (by omega),
      List.append_nil]
    rfl

section

variable (p : RetryPolicy) (retryable : Failure → Bool) (operation : Act ω α) (w : ω)

/-- A call makes attempts up to one that settles it, or up to the last one that is allowed; and a
call that counts its runs is the same call. -/
theorem exists_run_eq :
    ∃ (m : Nat) (failure : Nat → Failure),
      (∀ i < m, (operation.nth w i).result = .error (failure i) ∧ retryable (failure i) = true) ∧
      m < p.attempts.val ∧
      (Settles retryable (operation.nth w m).result ∨ m + 1 = p.attempts.val) ∧
      (p.run retryable operation).run w =
        ⟨(operation.nth w m).result, operation.worldAt w (m + 1),
          p.row (operation.nth w) failure 1 m ++ (operation.nth w m).events⟩ ∧
      (p.run retryable operation.counted).run (w, 0) =
        ⟨(operation.nth w m).result, (operation.worldAt w (m + 1), m + 1),
          p.row (operation.nth w) failure 1 m ++ (operation.nth w m).events⟩ := by
  obtain ⟨m, few, hbefore, hlast⟩ := exists_last retryable (operation.nth w) p.attempts.property
  obtain ⟨failure, before⟩ := exists_failure hbefore
  have last : ∀ f, (operation.nth w m).result = .error f → retryable f = true →
      m + 1 = p.attempts.val := by
    intro f hf hworth
    rcases hlast with hsettles | hm
    · rw [hsettles f hf] at hworth
      cases hworth
    · exact hm
  refine ⟨m, failure, before, few, hlast, ?_, ?_⟩
  · rw [run_row (fun i hi => (before i hi).1) (fun i hi => (before i hi).2) few last]
    rfl
  · have hrow : p.row (operation.counted.nth (w, 0)) failure 1 m =
        p.row (operation.nth w) failure 1 m := by
      simp only [row, Act.counted_nth]
    have hrun := @run_row _ _ p retryable operation.counted m (w, 0) failure
      (fun i hi => by
        rw [Act.counted_nth]
        exact (before i hi).1)
      (fun i hi => (before i hi).2) few
      (fun f hf => by
        rw [Act.counted_nth] at hf
        exact last f hf)
    rw [hrun, hrow, Act.counted_nth]

theorem governs_run :
    p.Governs retryable (operation.nth w) (p.runs retryable operation w)
      ((p.run retryable operation).run w) := by
  obtain ⟨m, failure, before, few, last, hrun, hcounted⟩ := p.exists_run_eq retryable operation w
  rw [runs, hcounted, hrun]
  exact governs_row before few last

theorem run_counted :
    (p.run retryable operation.counted).run (w, 0) =
      ⟨((p.run retryable operation).run w).result,
        (((p.run retryable operation).run w).world, p.runs retryable operation w),
        ((p.run retryable operation).run w).events⟩ := by
  obtain ⟨m, failure, -, -, -, hrun, hcounted⟩ := p.exists_run_eq retryable operation w
  rw [runs, hcounted, hrun]

end

/-- An operation that succeeds at its third run. -/
def failingTwice : Act Nat Nat := fun n =>
  ⟨if n < 2 then .error .missingItem else .ok n, n + 1, []⟩

end RetryPolicy
end ReleaseNotes
