/-
Attempts in a row.

Each attempt of a call starts in the world that the attempt before it leaves, so the worlds and the
outcomes of all attempts are told by the operation alone.  A call under a policy comes to the first
of these outcomes that settles it.

Main statements:
* `Act.worldAt`, `Act.nth` — an operation that is done again and again;
* `RetryPolicy.run_row` — a call under a policy, by the attempts that it makes;
* `filterMap_row`, `filterMap_row_of_nil` — what a view shows of such a call;
* `sleeps_row` — how long it waits.
-/
import Mathlib.Data.List.Basic
import ReleaseNotes.Proofs.Retry.Attempts

namespace ReleaseNotes

variable {ω α : Type}

namespace Act

/-- The world in which an operation starts that was done so many times before. -/
def worldAt (operation : Act ω α) (w : ω) : Nat → ω
  | 0 => w
  | i + 1 => (operation.run (operation.worldAt w i)).world

/-- What an operation comes to that was done so many times before. -/
def nth (operation : Act ω α) (w : ω) (i : Nat) : Outcome ω α :=
  operation.run (operation.worldAt w i)

variable (operation : Act ω α)

@[simp] theorem worldAt_zero (w : ω) : operation.worldAt w 0 = w := rfl

theorem worldAt_add_one (w : ω) (i : Nat) :
    operation.worldAt w (i + 1) = operation.worldAt (operation.run w).world i := by
  induction i with
  | zero => rfl
  | succ i ih =>
    show (operation.run (operation.worldAt w (i + 1))).world = _
    rw [ih]
    rfl

theorem nth_add_one (w : ω) (i : Nat) :
    operation.nth w (i + 1) = operation.nth (operation.run w).world i := by
  rw [nth, worldAt_add_one, nth]

end Act

/-- What attempts leave behind that all fail, the first of them number `n`: the events of each, and
the pause behind it. -/
def RetryPolicy.row (p : RetryPolicy) (outcome : Nat → Outcome ω α) (failure : Nat → Failure)
    (n m : Nat) : List Event :=
  (List.range m).flatMap fun i => (outcome i).events ++ p.pause (n + i) (failure i)

section

variable {p : RetryPolicy} {retryable : Failure → Bool} {operation : Act ω α}

theorem RetryPolicy.row_add_one {outcome : Nat → Outcome ω α} {failure : Nat → Failure}
    (n m : Nat) :
    p.row outcome failure n (m + 1) = (outcome 0).events ++ p.pause n (failure 0) ++
      p.row (fun i => outcome (i + 1)) (fun i => failure (i + 1)) (n + 1) m := by
  rw [row, List.range_succ_eq_map, List.flatMap_cons, List.flatMap_map, row]
  simp only [Nat.add_zero, Nat.add_assoc, Nat.add_comm 1]

theorem RetryPolicy.attemptFrom_row {m left n : Nat} {w : ω} {failure : Nat → Failure}
    (failed : ∀ i < m, (operation.nth w i).result = .error (failure i))
    (worth : ∀ i < m, retryable (failure i) = true) (few : m ≤ left)
    (last : ∀ f, (operation.nth w m).result = .error f → retryable f = true → m = left) :
    (p.attemptFrom retryable operation left n).run w =
      ⟨(operation.nth w m).result, (operation.nth w m).world,
        p.row (operation.nth w) failure n m ++ (operation.nth w m).events⟩ := by
  induction m generalizing left n w failure with
  | zero =>
    show _ = operation.run w
    cases left with
    | zero => rfl
    | succ left =>
      -- the first attempt settles the call, although others are left
      rw [attemptFrom, Act.rescue_run]
      have hlast : ∀ f, (operation.run w).result = .error f → retryable f = true → 0 = left + 1 :=
        last
      rcases h : operation.run w with ⟨result, w', events⟩
      rw [h] at hlast
      cases result with
      | ok a => rfl
      | error f =>
        have hf : ¬ retryable f = true := fun hf => by
          have := hlast f rfl hf
          omega
        simp [hf]
  | succ m ih =>
    obtain ⟨left, rfl⟩ : ∃ k, left = k + 1 := ⟨left - 1, by omega⟩
    have hfirst : (operation.run w).result = .error (failure 0) := failed 0 (by omega)
    have hworth : retryable (failure 0) = true := worth 0 (by omega)
    have hrest := @ih left (n + 1) (operation.run w).world (fun i => failure (i + 1))
      (fun i hi => by
        rw [← Act.nth_add_one]
        exact failed (i + 1) (by omega))
      (fun i hi => worth (i + 1) (by omega)) (by omega)
      (fun f hf hr => by
        rw [← Act.nth_add_one] at hf
        have := last f hf hr
        omega)
    simp only [← Act.nth_add_one] at hrest
    have hnth : (fun i => operation.nth w (i + 1)) = operation.nth (operation.run w).world :=
      funext (operation.nth_add_one w)
    rw [row_add_one, hnth, attemptFrom, Act.rescue_run]
    have hzero : operation.nth w 0 = operation.run w := rfl
    rw [hzero]
    rcases h : operation.run w with ⟨result, w', events⟩
    rw [h] at hfirst hrest
    cases hfirst
    simp [hworth, Act.bind_run, hrest, pause]

/-- A call under a policy that fails so many times, each time in a way that is worth another
attempt: what comes next settles it, or is its last attempt. -/
theorem RetryPolicy.run_row {m : Nat} {w : ω} {failure : Nat → Failure}
    (failed : ∀ i < m, (operation.nth w i).result = .error (failure i))
    (worth : ∀ i < m, retryable (failure i) = true) (few : m < p.attempts.val)
    (last : ∀ f, (operation.nth w m).result = .error f → retryable f = true →
      m + 1 = p.attempts.val) :
    (p.run retryable operation).run w =
      ⟨(operation.nth w m).result, (operation.nth w m).world,
        p.row (operation.nth w) failure 1 m ++ (operation.nth w m).events⟩ := by
  refine attemptFrom_row failed worth (by omega) fun f hf hr => ?_
  have := last f hf hr
  omega

/-- A call under a policy whose first attempt settles it. -/
theorem RetryPolicy.run_of_settled {w : ω}
    (settled : ∀ f, (operation.run w).result = .error f → retryable f = false) :
    (p.run retryable operation).run w = operation.run w := by
  have hone : 1 ≤ p.attempts.val := p.attempts.property
  have hrow := @run_row _ _ p retryable operation 0 w (fun _ => .missingItem)
    (fun i hi => by omega) (fun i hi => by omega) (by omega)
    (fun f hf hr => by
      rw [settled f hf] at hr
      cases hr)
  rw [hrow]
  rfl

end

/-- What a view shows of attempts in a row that shows the same of each of them and nothing of the
pauses. -/
theorem filterMap_row {β : Type} {view : Event → Option β} {shown : List β} {p : RetryPolicy}
    {outcome : Nat → Outcome ω α} {failure : Nat → Failure} {n m : Nat}
    (hattempt : ∀ i < m, (outcome i).events.filterMap view = shown)
    (hpause : ∀ n f, (p.pause n f).filterMap view = []) :
    (p.row outcome failure n m).filterMap view = (List.replicate m shown).flatten := by
  induction m generalizing n outcome failure with
  | zero => rfl
  | succ m ih =>
    have hrest := @ih (fun i => outcome (i + 1)) (fun i => failure (i + 1)) (n + 1)
      fun i hi => hattempt (i + 1) (by omega)
    rw [RetryPolicy.row_add_one, List.filterMap_append, List.filterMap_append, hrest, hpause,
      hattempt 0 (by omega), List.append_nil, List.replicate_succ, List.flatten_cons]

/-- What a view shows of attempts in a row of which it shows nothing but the pauses. -/
theorem filterMap_row_of_nil {β : Type} {view : Event → Option β} {p : RetryPolicy}
    {outcome : Nat → Outcome ω α} {failure : Nat → Failure} {n m : Nat}
    (hattempt : ∀ i < m, (outcome i).events.filterMap view = []) :
    (p.row outcome failure n m).filterMap view =
      (List.range m).flatMap fun i => (p.pause (n + i) (failure i)).filterMap view := by
  rw [RetryPolicy.row, List.filterMap_flatMap]
  refine List.flatMap_congr fun i hi => ?_
  rw [List.filterMap_append, hattempt i (List.mem_range.1 hi), List.nil_append]

/-- The waits of attempts in a row that do not wait themselves. -/
theorem sleeps_row {p : RetryPolicy} {outcome : Nat → Outcome ω α} {failure : Nat → Failure}
    {n m : Nat} (hattempt : ∀ i < m, (outcome i).sleeps = []) :
    (p.row outcome failure n m).filterMap Event.sleep? = (List.range' n m).map p.delay := by
  have hpause : ∀ n f, (p.pause n f).filterMap Event.sleep? = [p.delay n] := fun _ _ => rfl
  rw [filterMap_row_of_nil hattempt, List.range'_eq_map_range, List.map_map, List.map_eq_flatMap]
  exact List.flatMap_congr fun i _ => hpause (n + i) (failure i)

end ReleaseNotes
