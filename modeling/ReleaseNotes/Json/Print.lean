/-
Writing JSON.

Two layouts: indented by two spaces with one item a line, and on one line.  A style says whether
units are escaped that are no printing ASCII characters, how floats look, and whether a blank stands
between the parts of a line.

Main statements:
* `Json.escapedUnit` — what stands for one unit of text between quotation marks;
* `Json.indented`, `Json.compact` — the two layouts;
* `Json.Style.result`, `Json.Style.document`, `Json.Style.message` — the styles in use.
-/
import ReleaseNotes.Json.Basic
import ReleaseNotes.Decimal.Layout
import ReleaseNotes.Text.Quoted

namespace ReleaseNotes
namespace Json

/-- The decisions of a JSON printer. -/
structure Style where
  /-- Whether units beyond the ASCII characters that print are escaped. -/
  ascii : Bool
  decimals : DecimalLayout
  /-- Whether a blank follows a comma or a colon on a line. -/
  spaced : Bool

namespace Style

/-- Results and log lines are printing ASCII characters. -/
def result : Style := ⟨true, .json, true⟩

/-- Documents show characters as they are. -/
def document : Style := ⟨false, .document, true⟩

/-- Messages to services show characters as they are and have no blanks between their parts. -/
def message : Style := ⟨false, .json, false⟩

end Style

/-- The escape of a code unit. -/
def escapedCode (n : Nat) : Text := Text.ofChars ('\\' :: 'u' :: hexPadded 4 n)

/-- A backslash and a letter. -/
def escapedLetter (c : Char) : Text := Text.ofChars ['\\', c]

/-- What stands for one unit of text between quotation marks. -/
def escapedUnit (style : Style) : TextUnit → Text
  | .half offset => if style.ascii then escapedCode (0xD800 + offset) else [.half offset]
  | .byte value => if style.ascii then escapedCode value.toNat else [.byte value]
  | .char c =>
    if c = '"' ∨ c = '\\' then escapedLetter c
    else if c = '\n' then escapedLetter 'n'
    else if c = '\r' then escapedLetter 'r'
    else if c = '\t' then escapedLetter 't'
    else if c = '\x08' then escapedLetter 'b'
    else if c = '\x0c' then escapedLetter 'f'
    else if c.toNat < 0x20 then escapedCode c.toNat
    else if style.ascii ∧ 0x10000 ≤ c.toNat then
      escapedCode (0xD800 + (c.toNat - 0x10000) / 0x400) ++
        escapedCode (0xDC00 + (c.toNat - 0x10000) % 0x400)
    else if style.ascii ∧ 0x7F ≤ c.toNat then escapedCode c.toNat
    else [.char c]

/-- A text between quotation marks. -/
def string (style : Style) (t : Text) : Text :=
  .char '"' :: t.flatMap (escapedUnit style) ++ [.char '"']

/-- A value that holds no others. -/
def scalar (style : Style) : Json → Text
  | null => "null"
  | bool true => "true"
  | bool false => "false"
  | int n => Numeral.printInt n
  | float x => style.decimals.print x
  | str t => string style t
  | arr _ => "[]"
  | obj _ => "\x7b\x7d"

/-- The start of a line. -/
def newline (margin : Nat) : Text := .char '\n' :: List.replicate (2 * margin) (.char ' ')

mutual

/-- A value with one item a line, indented by two spaces a level. -/
def indentedUnits (style : Style) (margin : Nat) : Json → Text
  | arr (v :: vs) =>
    .char '[' :: (newline (margin + 1) ++ indentedUnits style (margin + 1) v ++
      indentedItems style (margin + 1) vs) ++ newline margin ++ [.char ']']
  | obj ((name, v) :: rest) =>
    .char '\x7b' :: (newline (margin + 1) ++ string style name ++ .char ':' :: .char ' ' ::
      indentedUnits style (margin + 1) v ++ indentedFields style (margin + 1) rest) ++
      newline margin ++ [.char '\x7d']
  | j => scalar style j

/-- The items of an array after the first. -/
def indentedItems (style : Style) (margin : Nat) : List Json → Text
  | [] => []
  | v :: vs =>
    .char ',' :: (newline margin ++ indentedUnits style margin v ++ indentedItems style margin vs)

/-- The fields of an object after the first. -/
def indentedFields (style : Style) (margin : Nat) : List (Text × Json) → Text
  | [] => []
  | (name, v) :: rest =>
    .char ',' :: (newline margin ++ string style name ++ .char ':' :: .char ' ' ::
      indentedUnits style margin v ++ indentedFields style margin rest)

end

/-- A mark between the parts of a line, with the blank behind it. -/
def Style.mark (style : Style) (c : Char) : Text :=
  .char c :: if style.spaced then [.char ' '] else []

mutual

/-- A value on one line. -/
def compactUnits (style : Style) : Json → Text
  | arr (v :: vs) => .char '[' :: (compactUnits style v ++ compactItems style vs) ++ [.char ']']
  | obj ((name, v) :: rest) =>
    .char '\x7b' :: (string style name ++ style.mark ':' ++ compactUnits style v ++
      compactFields style rest) ++ [.char '\x7d']
  | j => scalar style j

/-- The items of an array after the first. -/
def compactItems (style : Style) : List Json → Text
  | [] => []
  | v :: vs => style.mark ',' ++ (compactUnits style v ++ compactItems style vs)

/-- The fields of an object after the first. -/
def compactFields (style : Style) : List (Text × Json) → Text
  | [] => []
  | (name, v) :: rest =>
    style.mark ',' ++ (string style name ++ style.mark ':' ++ compactUnits style v ++
      compactFields style rest)

end

/-- The text of a value, one item a line. -/
def indented (style : Style) (j : Json) : Text := indentedUnits style 0 j

/-- The text of a value on one line. -/
def compact (style : Style) (j : Json) : Text := compactUnits style j

mutual

/-- Whether every integer in a value is short enough to be written. -/
def isWritable : Json → Bool
  | int n => (Numeral.digits n.natAbs).length ≤ Numeral.maxDigits
  | arr items => areWritable items
  | obj fields => fieldsAreWritable fields
  | _ => true

/-- Whether every integer in some values is short enough. -/
def areWritable : List Json → Bool
  | [] => true
  | v :: vs => v.isWritable && areWritable vs

/-- Whether every integer in the values of some fields is short enough. -/
def fieldsAreWritable : List (Text × Json) → Bool
  | [] => true
  | (_, v) :: rest => v.isWritable && fieldsAreWritable rest

end

end Json
end ReleaseNotes
