/-
Numerals in text fields.

The spellings of integers and of numbers that a number field accepts as text.  An underscore may
stand between two characters of a numeral; among the zeros that an integer begins with any number of
underscores may stand, and a minus sign may follow those zeros.

Main statements:
* `Spelling.integer?` — the integer that a text spells;
* `Spelling.number?` — the float that a text spells.
-/
import ReleaseNotes.Json.Decode
import ReleaseNotes.Text.Blank

namespace ReleaseNotes
namespace Spelling

/-- Whether a character is trimmed off the ends: blanks that are no information separators. -/
def isTrimmed (c : Char) : Bool := isBlank c && !(28 ≤ c.toNat && c.toNat ≤ 31)

/-- The characters without the blanks at both ends. -/
def trim (cs : List Char) : List Char :=
  ((cs.dropWhile isTrimmed).reverse.dropWhile isTrimmed).reverse

/-- A sign and the characters behind it. -/
def signed : List Char → Bool × List Char
  | '-' :: cs => (true, cs)
  | '+' :: cs => (false, cs)
  | cs => (false, cs)

/-- Whether two underscores stand next to each other. -/
def hasGap : List Char → Bool
  | '_' :: '_' :: _ => true
  | _ :: cs => hasGap cs
  | [] => false

/-- The characters without underscores, if each underscore has another character on both sides. -/
def joined? (cs : List Char) : Option (List Char) :=
  if cs.head? = some '_' ∨ cs.getLast? = some '_' ∨ hasGap cs then none
  else some (cs.filter (· != '_'))

/-! ### Integers -/

/-- The characters behind the zeros and underscores that follow a zero; a zero stays if it is the
last character or if a point follows it. -/
def afterZeros (last : Char) : List Char → Option (List Char)
  | [] => some [last]
  | '.' :: cs => some (last :: '.' :: cs)
  | c :: cs =>
    if c = '0' ∨ c = '_' then afterZeros c cs
    else if c.isDigit ∨ c = '-' then some (c :: cs)
    else none

/-- The characters of an unsigned integer without the zeros that it begins with. -/
def withoutZeros : List Char → Option (List Char)
  | '0' :: cs => afterZeros '0' cs
  | c :: cs => if c.isDigit ∨ c = '-' then some (c :: cs) else none
  | [] => none

/-- The characters without a point and zeros at the end. -/
def withoutZeroFraction (cs : List Char) : List Char :=
  match cs.dropWhile (· != '.') with
  | '.' :: c :: rest => if (c :: rest).all (· == '0') then cs.takeWhile (· != '.') else cs
  | _ => cs

/-- The plain form of an integer: a minus sign or none, then digits. -/
def plainInteger? (cs : List Char) : Option (List Char) :=
  let plain := fun cs => (withoutZeros cs).map fun cs =>
    let whole := withoutZeroFraction cs
    (joined? whole).getD whole
  match cs with
  | '+' :: '-' :: _ => none
  | '+' :: cs => plain cs
  | '-' :: cs => (plain cs).map ('-' :: ·)
  | cs => plain cs

/-- What a text says about an integer. -/
inductive Integer where
  | value (n : Int)
  | tooLong
  | none

/-- The integer in its plain form.  Only its digits are counted, not its sign. -/
def readInteger (cs : List Char) : Integer :=
  let (negative, body) := match cs with
    | '-' :: body => (true, body)
    | body => (false, body)
  let digits := body.takeWhile Char.isDigit
  let isNumeral := !digits.isEmpty && (digits.head? != some '0' || digits.length == 1)
  if !isNumeral then .none
  else if Numeral.maxDigits < digits.length then .tooLong
  else if digits.length ≠ body.length then .none
  else
    let n : Int := Numeral.value digits
    .value (if negative then -n else n)

/-- The integer that a text spells. -/
def integer? (cs : List Char) : Integer :=
  match plainInteger? (trim cs) with
  | Option.none => .none
  | some plain => readInteger plain

/-! ### Numbers -/

/-- Whether the characters spell a word of small letters, in any case. -/
def spells (word : String) (cs : List Char) : Bool := cs.map Char.toLower == word.toList

/-- The digits and the exponent of a plain number, with the digits of the fraction counted in. -/
def plain? (cs : List Char) : Option Decimal := do
  let isMark := fun c : Char => c == 'e' || c == 'E'
  let body := cs.takeWhile fun c => !isMark c
  let exponent ← match cs.dropWhile fun c => !isMark c with
    | [] => some (0 : Int)
    | _ :: rest =>
      let (negative, ds) := signed rest
      if ds.isEmpty || !ds.all Char.isDigit then none
      else
        let e : Int := Numeral.value ds
        some (if negative then -e else e)
  let whole := body.takeWhile (· != '.')
  let fraction := (body.dropWhile (· != '.')).drop 1
  if (whole ++ fraction).isEmpty || !(whole ++ fraction).all Char.isDigit then none
  else some ⟨Numeral.value (whole ++ fraction), exponent - fraction.length⟩

/-- The float that is spelt without underscores. -/
def readNumber (cs : List Char) : Option Float :=
  let (negative, body) := signed cs
  let magnitude :=
    if spells "inf" body || spells "infinity" body then some (1.0 / 0.0)
    else if spells "nan" body then some (0.0 / 0.0)
    else (plain? body).map Decimal.toFloat
  magnitude.map fun m => if negative then -m else m

/-- The float that a text spells: either there are blanks at its ends, or underscores in it. -/
def number? (cs : List Char) : Option Float :=
  match readNumber (trim cs) with
  | some x => some x
  | none => (joined? cs).bind readNumber

end Spelling
end ReleaseNotes
