/-
Blank characters.

The whitespace of Unicode together with the four information separators, which a release directive
may carry between its colon and its word.

Main statement:
* `isBlank` — whether a character is blank.
-/

namespace ReleaseNotes

/-- Whether the character is whitespace or an information separator. -/
def isBlank (c : Char) : Bool :=
  let n := c.toNat
  (9 ≤ n && n ≤ 13) || (28 ≤ n && n ≤ 32) || n == 0x85 || n == 0xA0 || n == 0x1680 ||
    (0x2000 ≤ n && n ≤ 0x200A) || n == 0x2028 || n == 0x2029 || n == 0x202F || n == 0x205F ||
    n == 0x3000

/-- The characters without a line feed at the end. -/
def withoutBreak (cs : List Char) : List Char := if cs.getLast? = some '\n' then cs.dropLast else cs

end ReleaseNotes
