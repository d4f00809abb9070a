/-
Bytes written with sixty-four characters.

Four characters stand for three bytes.  Other characters are passed over; equals signs fill the last
four up, and nothing behind them is read.

Main statements:
* `Base64.sextets?` — the numbers below sixty-four that a text writes;
* `Base64.decode?` — the bytes that a text writes.
-/

namespace ReleaseNotes
namespace Base64

/-- The number below sixty-four that a character stands for. -/
def sextet? (c : Char) : Option Nat :=
  if c.isUpper then some (c.toNat - 65)
  else if c.isLower then some (c.toNat - 71)
  else if c.isDigit then some (c.toNat + 4)
  else if c = '+' then some 62
  else if c = '/' then some 63
  else none

/-- The numbers that a text writes, if it breaks off at the end of four characters only.  `position`
counts the characters of the four that were read, `fill` the signs that fill them up. -/
def sextets? (position fill : Nat) : List Char → Option (List Nat)
  | [] => if position = 0 then some [] else none
  | c :: cs =>
    if c = '=' then
      if 2 ≤ position then
        if 4 ≤ position + fill + 1 then some [] else sextets? position (fill + 1) cs
      else sextets? position fill cs
    else match sextet? c with
      | some n => (sextets? ((position + 1) % 4) 0 cs).map (n :: ·)
      | none => sextets? position fill cs

/-- The bytes that are made of numbers below sixty-four. -/
def bytes : List Nat → List UInt8
  | a :: b :: c :: d :: rest =>
    UInt8.ofNat (4 * a + b / 16) :: UInt8.ofNat (b % 16 * 16 + c / 4) ::
      UInt8.ofNat (c % 4 * 64 + d) :: bytes rest
  | [a, b, c] => [UInt8.ofNat (4 * a + b / 16), UInt8.ofNat (b % 16 * 16 + c / 4)]
  | [a, b] => [UInt8.ofNat (4 * a + b / 16)]
  | _ => []

/-- The bytes that a text writes. -/
def decode? (cs : List Char) : Option (List UInt8) := (sextets? 0 0 cs).map bytes

end Base64
end ReleaseNotes
