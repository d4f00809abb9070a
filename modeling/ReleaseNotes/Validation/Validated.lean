/-
Validated values.

The outcome of a check: a value, or everything that is wrong.  Outcomes are combined side by side,
so that all problems are found, in the order of the checks.

Main statements:
* `Validated.ap` — two outcomes side by side, with the problems of both, the first outcome's first;
* `Validated.orFail` — the outcome as that of a call.
-/
import ReleaseNotes.Failure

namespace ReleaseNotes

/-- The outcome of a check. -/
inductive Validated (α : Type) where
  | ok (value : α)
  | bad (problems : List Problem)

namespace Validated

variable {α β : Type}

/-- The outcome with its value changed. -/
def map (f : α → β) : Validated α → Validated β
  | ok a => ok (f a)
  | bad problems => bad problems

/-- A function and its argument, checked side by side. -/
def ap : Validated (α → β) → Validated α → Validated β
  | ok f, ok a => ok (f a)
  | ok _, bad q => bad q
  | bad p, ok _ => bad p
  | bad p, bad q => bad (p ++ q)

/-- A further check of a good value. -/
def andThen (v : Validated α) (f : α → Validated β) : Validated β :=
  match v with
  | ok a => f a
  | bad problems => bad problems

/-- The outcome seen from one step further out. -/
def under (step : Step) : Validated α → Validated α
  | ok a => ok a
  | bad problems => bad (problems.map (Problem.under step))

/-- The value, if it is good. -/
def value? : Validated α → Option α
  | ok a => some a
  | bad _ => none

/-- The outcome as that of a call that needs a good value of a model. -/
def orFail (model : String) : Validated α → Except Failure α
  | ok a => .ok a
  | bad problems => .error (.invalid model problems)

theorem orFail_eq_ok_iff {model : String} {v : Validated α} {a : α} :
    v.orFail model = .ok a ↔ v = ok a := by
  cases v <;> simp [orFail]

end Validated
end ReleaseNotes
