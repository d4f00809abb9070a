/-
Reading decimals.

The float nearest to a decimal that is given by its digits and its exponent.

Main statements:
* `Decimal.toFloat` — the nearest float; exponents far outside the range of floats are settled
  without computing the power of ten;
* `Decimal.wholeLimit` — the whole numbers that are too large for a float.
-/
import ReleaseNotes.Decimal.Shortest

namespace ReleaseNotes
namespace Decimal

/-- No float that is not zero or infinite has its leading digit beyond this power of ten. -/
def exponentBound : Nat := 400

/-- The float nearest to a decimal magnitude. -/
def toFloat (d : Decimal) : Float :=
  if d.digits = 0 then 0.0
  else
    let lead : Int := d.exponent + (Numeral.digits d.digits).length
    if (exponentBound : Int) < lead then 1.0 / 0.0
    else if lead < -(exponentBound : Int) then 0.0
    else match d.exponent with
      | .ofNat k => Float.ofScientific d.digits false k
      | .negSucc k => Float.ofScientific d.digits true (k + 1)

/-- The float nearest to an integer. -/
def floatOfInt (n : Int) : Float :=
  let m := toFloat ⟨n.natAbs, 0⟩
  if n < 0 then -m else m

/-- From this whole number on the nearest float is infinite. -/
def wholeLimit : Nat := Nat.pow 2 1024 - Nat.pow 2 970

end Decimal
end ReleaseNotes
