/-
Shortest decimals.

The decimal that stands for a binary fraction: of the decimals that round to it, one with the fewest
digits, and of those the nearest.

Main statements:
* `Binary.ofFloat?` — sign and magnitude of a finite float as `m · 2 ^ q`;
* `Binary.shortest` — the first grid of `1, 2, …, 17` digits with a point that rounds back;
* `Decimal` — the result, digits and an exponent of ten.
-/
import ReleaseNotes.Decimal.Numeral

namespace ReleaseNotes

/-- A decimal magnitude, `digits · 10 ^ exponent`. -/
structure Decimal where
  digits : Nat
  exponent : Int
  deriving DecidableEq, Repr

namespace Decimal

/-- The same magnitude without trailing zeros among the digits. -/
def normalize (d : Decimal) : Decimal :=
  if h : d.digits ≠ 0 ∧ d.digits % 10 = 0 then
    normalize ⟨d.digits / 10, d.exponent + 1⟩
  else d
termination_by d.digits
decreasing_by omega

end Decimal

/-- A binary magnitude, `mantissa · 2 ^ exponent`.  Where the mantissa is the least of its binade,
`narrow` says that the gap below it is half the gap above. -/
structure Binary where
  mantissa : Nat
  exponent : Int
  narrow : Bool
  deriving DecidableEq, Repr

namespace Binary

/-- The magnitude of a finite float. -/
def ofFloat? (x : Float) : Option Binary :=
  let bits : Nat := x.toBits.toNat
  let fraction : Nat := bits % Nat.pow 2 52
  let biased : Nat := bits / Nat.pow 2 52 % Nat.pow 2 11
  if biased = 2047 then none
  else if biased = 0 then some ⟨fraction, -1074, false⟩
  else some ⟨Nat.pow 2 52 + fraction, (biased : Int) - 1075, fraction == 0 && biased != 1⟩

/-- The magnitude and the ends of the interval that rounds to it, as numerators over one
denominator. -/
structure Span where
  low : Nat
  value : Nat
  high : Nat
  denominator : Nat
  closed : Bool

/-- The interval that rounds to the magnitude: half a gap on either side, its ends included when the
mantissa is even. -/
def span (b : Binary) : Span :=
  let value : Nat := 4 * b.mantissa
  let low : Nat := value - (if b.narrow then 1 else 2)
  let high : Nat := value + 2
  let shift : Int := b.exponent - 2
  let closed : Bool := b.mantissa % 2 == 0
  match shift with
  | .ofNat k => ⟨low * Nat.pow 2 k, value * Nat.pow 2 k, high * Nat.pow 2 k, 1, closed⟩
  | .negSucc k => ⟨low, value, high, Nat.pow 2 (k + 1), closed⟩

namespace Span

/-- The span measured in units of `10 ^ k`. -/
def inUnits (s : Span) : Int → Span
  | .ofNat k => { s with denominator := s.denominator * Nat.pow 10 k }
  | .negSucc k =>
    let scale := Nat.pow 10 (k + 1)
    { s with low := s.low * scale, value := s.value * scale, high := s.high * scale }

/-- Whether a whole number of units lies in the span. -/
def contains (s : Span) (n : Nat) : Bool :=
  let p := n * s.denominator
  if s.closed then s.low ≤ p && p ≤ s.high else s.low < p && p < s.high

/-- How far a whole number of units lies from the value. -/
def distance (s : Span) (n : Nat) : Nat :=
  let p := n * s.denominator
  if p ≤ s.value then s.value - p else p - s.value

/-- The whole number of units next to the value that lies in the span, the nearer of two, and the
even one of two that are equally near. -/
def hit? (s : Span) : Option Nat :=
  let below := s.value / s.denominator
  let above := below + 1
  match s.contains below, s.contains above with
  | false, false => none
  | true, false => some below
  | false, true => some above
  | true, true =>
    let db := s.distance below
    let da := s.distance above
    if db < da then some below
    else if da < db then some above
    else if below % 2 = 0 then some below else some above

/-- The exponent of ten of the value's leading digit. -/
def leading (s : Span) : Int :=
  let whole := s.value / s.denominator
  if 0 < whole then ((Numeral.digits whole).length : Int) - 1
  else
    let reciprocal := s.denominator / s.value
    let n := (Numeral.digits reciprocal).length
    -- the value lies between `10 ^ -n` and `10 ^ -(n - 1)`, or is a power of ten itself
    if s.denominator = s.value * Nat.pow 10 (n - 1) then -((n : Int) - 1) else -(n : Int)

end Span

/-- The shortest decimal of a binary magnitude. -/
def shortest (b : Binary) : Decimal :=
  if b.mantissa = 0 then ⟨0, 0⟩
  else
    let s := b.span
    let lead := s.leading
    let found := (List.range 17).findSome? fun (n : Nat) =>
      let k : Int := lead - n
      (s.inUnits k).hit?.map fun d => Decimal.normalize ⟨d, k⟩
    found.getD ⟨0, 0⟩

end Binary
end ReleaseNotes
