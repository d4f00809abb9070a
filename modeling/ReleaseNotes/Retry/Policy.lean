/-
Retry policies.

How often a call is tried, and how long the waits between the attempts are: each is the one before
times a factor, up to a cap.

Main statements:
* `RetryPolicy` — the numbers of a policy, with their bounds;
* `RetryPolicy.delay` — the wait after an attempt.
-/
import ReleaseNotes.Validation.Check

namespace ReleaseNotes

/-- How often a call is tried, and how long the waits are. -/
structure RetryPolicy where
  attempts : { n : Nat // 1 ≤ n }
  initialDelay : { x : Float // (0.0 : Float) ≤ x }
  backoffFactor : { x : Float // (1.0 : Float) ≤ x }

namespace RetryPolicy

/-- The name of the model in reports. -/
def model : String := "RetryPolicy"

/-- Three attempts, with waits of one second and of two seconds. -/
def standard : RetryPolicy := ⟨⟨3, by decide⟩, ⟨1.0, by decide⟩, ⟨2.0, by decide⟩⟩

/-- A delay, which is not negative. -/
def delayCheck : Check { x : Float // (0.0 : Float) ≤ x } := fun j =>
  (Check.number j).andThen fun x =>
    if h : (0.0 : Float) ≤ x then .ok ⟨x, h⟩ else Check.refuse (.below 0) j

/-- A factor, which is not below one. -/
def factorCheck : Check { x : Float // (1.0 : Float) ≤ x } := fun j =>
  (Check.number j).andThen fun x =>
    if h : (1.0 : Float) ≤ x then .ok ⟨x, h⟩ else Check.refuse (.below 1) j

/-- A policy read from a value. -/
def check : Check RetryPolicy := Check.object model fun fields =>
  (((Check.optional fields "attempts" standard.attempts (Check.naturalFrom 1)).map
    RetryPolicy.mk).ap
    (Check.optional fields "initial_delay" standard.initialDelay delayCheck)).ap
    (Check.optional fields "backoff_factor" standard.backoffFactor factorCheck)

/-- The fields of a policy. -/
def toJson (p : RetryPolicy) : Json :=
  .record [
    ("attempts", .nat p.attempts.val), ("initial_delay", .float p.initialDelay.val),
    ("backoff_factor", .float p.backoffFactor.val)]

/-- The longest wait, `2 ^ 62` seconds. -/
def longest : Float := 4611686018427387904.0

/-- Whether the wait after an attempt is beyond the longest, told by logarithms. -/
def isBeyond (delay factor exponent : Float) : Bool :=
  0.0 < delay && 1.0 < factor &&
    longest.log / factor.log - delay.log / factor.log < exponent

/-- A wait between nothing and the longest; what is no number is no wait. -/
def clamp (x : Float) : Float :=
  let capped := if longest < x then longest else x
  if 0.0 < capped then capped else 0.0

/-- The wait after an attempt, counted from one. -/
def delay (p : RetryPolicy) (attempt : Nat) : Float :=
  let d := p.initialDelay.val
  let factor := p.backoffFactor.val
  let exponent := (attempt - 1).toFloat
  if isBeyond d factor exponent then longest
  else
    let growth := factor.pow exponent
    if growth.isInf && !factor.isInf then longest else clamp (d * growth)

end RetryPolicy
end ReleaseNotes
