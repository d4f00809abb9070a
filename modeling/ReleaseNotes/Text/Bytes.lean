/-
Text from bytes.

The characters that bytes encode, up to four bytes each.  Bytes that encode nothing are not refused:
a replacement character stands for each run of bytes that begins a character and breaks off, and for
each byte that begins none.

Main statement:
* `Bytes.chars` — the characters of bytes.
-/

namespace ReleaseNotes
namespace Bytes

/-- What stands for bytes that encode nothing. -/
def replacement : Char := '\uFFFD'

/-- A character that is begun: how many bytes it still needs, what the next one lies between, and
its value so far. -/
structure Begun where
  needed : Nat
  least : Nat
  most : Nat
  value : Nat

/-- The character that a byte begins. -/
def begun? (b : Nat) : Option Begun :=
  if 0xC2 ≤ b ∧ b ≤ 0xDF then some ⟨1, 0x80, 0xBF, b - 0xC0⟩
  else if 0xE0 ≤ b ∧ b ≤ 0xEF then
    some ⟨2, if b = 0xE0 then 0xA0 else 0x80, if b = 0xED then 0x9F else 0xBF, b - 0xE0⟩
  else if 0xF0 ≤ b ∧ b ≤ 0xF4 then
    some ⟨3, if b = 0xF0 then 0x90 else 0x80, if b = 0xF4 then 0x8F else 0xBF, b - 0xF0⟩
  else none

/-- The characters that a byte completes where none is begun, and the character that it begins. -/
def first (b : Nat) : List Char × Option Begun :=
  if b < 0x80 then ([Char.ofNat b], none)
  else match begun? b with
    | some s => ([], some s)
    | none => ([replacement], none)

/-- The characters that a byte completes, and the character that is begun behind it. -/
def next : Option Begun → Nat → List Char × Option Begun
  | none, b => first b
  | some s, b =>
    if s.least ≤ b ∧ b ≤ s.most then
      let value := 0x40 * s.value + (b - 0x80)
      if s.needed = 1 then ([Char.ofNat value], none)
      else ([], some ⟨s.needed - 1, 0x80, 0xBF, value⟩)
    else
      let (cs, s) := first b
      (replacement :: cs, s)

/-- The characters of bytes behind a character that may be begun. -/
def charsAfter : Option Begun → List UInt8 → List Char
  | none, [] => []
  | some _, [] => [replacement]
  | s, b :: bs =>
    let (cs, s) := next s b.toNat
    cs ++ charsAfter s bs

/-- The characters of bytes. -/
def chars (bs : List UInt8) : List Char := charsAfter none bs

end Bytes
end ReleaseNotes
