/-
Repeated attempts.

A call is tried again as long as it fails in a way that is worth another attempt and attempts are
left.  Between two attempts there is a notice and a wait.

Main statements:
* `RetryPolicy.attemptFrom` — the attempts from one on;
* `RetryPolicy.run` — a call under a policy.
-/
import ReleaseNotes.Act.Basic
import ReleaseNotes.Retry.Policy

namespace ReleaseNotes
namespace RetryPolicy

variable {ω α : Type}

/-- The attempts from number `attempt` on, with so many left after it. -/
def attemptFrom (p : RetryPolicy) (retryable : Failure → Bool) (operation : Act ω α) :
    Nat → Nat → Act ω α
  | 0, _ => operation
  | left + 1, attempt => operation.rescue fun f =>
    if retryable f then do
      let wait := p.delay attempt
      Act.notice (.retrying attempt wait f)
      Act.leave (.slept wait)
      attemptFrom p retryable operation left (attempt + 1)
    else Act.fail f

/-- A call under a policy. -/
def run (p : RetryPolicy) (retryable : Failure → Bool) (operation : Act ω α) : Act ω α :=
  attemptFrom p retryable operation (p.attempts.val - 1) 1

/-- Whether a failure belongs to one of the families that are named. -/
def worthRetrying (families : List String) (f : Failure) : Bool :=
  families.any fun family => f.kind.isA family

end RetryPolicy
end ReleaseNotes
