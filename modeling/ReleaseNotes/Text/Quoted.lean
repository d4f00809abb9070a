/-
Quoted text.

How a message shows a text: between quotes, on one line, with every character that would not print
replaced by an escape.

Main statements:
* `Quoted.mark` — single quotes, unless the text holds a single quote and no double quote;
* `Quoted.unit` — what is written for one unit between the quotes;
* `Text.quoted` — the quoted text.
-/
import ReleaseNotes.Text.Printable

namespace ReleaseNotes

/-- The digits of a number to base sixteen, padded with zeros on the left to a width. -/
def hexPadded (width n : Nat) : List Char :=
  let digits := Nat.toDigits 16 n
  List.replicate (width - digits.length) '0' ++ digits

namespace Quoted

/-- The quotation mark of a text. -/
def mark (t : Text) : Char :=
  if t.contains (.char '\'') && !t.contains (.char '"') then '"' else '\''

/-- The escape of a code point that does not print: two, four or eight digits, as many as it
needs. -/
def escape (code : Nat) : List Char :=
  if code < 0x100 then '\\' :: 'x' :: hexPadded 2 code
  else if code < 0x10000 then '\\' :: 'u' :: hexPadded 4 code
  else '\\' :: 'U' :: hexPadded 8 code

/-- What stands for one unit between the quotation marks. -/
def unit (mark : Char) : TextUnit → List Char
  | .half offset => escape (0xD800 + offset)
  | .byte value => escape value.toNat
  | .char c =>
    if c = mark ∨ c = '\\' then ['\\', c]
    else if c = '\n' then ['\\', 'n']
    else if c = '\r' then ['\\', 'r']
    else if c = '\t' then ['\\', 't']
    else if isPrintable c then [c]
    else escape c.toNat

end Quoted

/-- The text between quotation marks. -/
def Text.quoted (t : Text) : String :=
  let m := Quoted.mark t
  String.ofList (m :: t.flatMap (Quoted.unit m) ++ [m])

/-- The string between quotation marks. -/
def quoted (s : String) : String := Text.quoted s

end ReleaseNotes
