/-
Decoded text.

A decoder of escaped text can meet half of a surrogate pair whose other half is missing, and data
that is read as text can have bytes that make up no character.  Neither has a place in a `String`;
`Text` keeps them beside the characters, and `Text.toString?` says which texts are strings.

Main statements:
* `Text.toString?_ofString` — a string survives the trip through `Text`;
* `Text.toString?_eq_some_iff` — only the texts that come from a string are strings;
* `Text.ofString_inj` — two strings with one text are equal.
-/

namespace ReleaseNotes

/-- One unit of decoded text: a character, half of a surrogate pair that found no partner, or a byte
that could not be decoded.  The offset counts from `0xD800`. -/
inductive TextUnit where
  | char (c : Char)
  | half (offset : Fin 0x800)
  | byte (value : UInt8)
  deriving DecidableEq, Repr

namespace TextUnit

/-- The code point of a unit; bytes come behind all code points. -/
def code : TextUnit → Nat
  | char c => c.toNat
  | half offset => 0xD800 + offset
  | byte value => 0x110000 + value.toNat

/-- The character of a unit, if it is one. -/
def char? : TextUnit → Option Char
  | char c => some c
  | half _ | byte _ => none

/-- Whether a unit is a character that passes a test. -/
def passes (test : Char → Bool) : TextUnit → Bool
  | char c => test c
  | half _ | byte _ => false

/-- Whether a unit is a byte that could not be decoded. -/
def isByte : TextUnit → Bool
  | byte _ => true
  | char _ | half _ => false

end TextUnit

/-- Text as a decoder yields it. -/
abbrev Text := List TextUnit

namespace Text

/-- Characters, seen as text. -/
def ofChars (cs : List Char) : Text := cs.map .char

/-- A string, seen as text. -/
def ofString (s : String) : Text := ofChars s.toList

instance : Coe String Text := ⟨ofString⟩

/-- The characters of a text, unless one of its units is no character. -/
def toChars? : Text → Option (List Char)
  | [] => some []
  | .char c :: rest => (toChars? rest).map (c :: ·)
  | .half _ :: _ | .byte _ :: _ => none

/-- Whether a text has a byte that could not be decoded. -/
def hasByte (t : Text) : Bool := t.any TextUnit.isByte

/-- The text as a string, unless one of its units is no character. -/
def toString? (t : Text) : Option String := (toChars? t).map String.ofList

/-- Whether the text reads exactly like the string. -/
def isString (t : Text) (s : String) : Bool := t == ofString s

/-- The characters of a text, with three replacement characters for each lone half and one for each
byte. -/
def shownChars (t : Text) : List Char :=
  t.flatMap fun
    | .char c => [c]
    | .half _ => ['\uFFFD', '\uFFFD', '\uFFFD']
    | .byte _ => ['\uFFFD']

/-- The text as a string, with replacement characters for the units that are no characters. -/
def shown (t : Text) : String := String.ofList (shownChars t)

/-- The characters at the front that pass a test. -/
def charsWhile (test : Char → Bool) (t : Text) : List Char :=
  (t.takeWhile fun u => u.passes test).filterMap TextUnit.char?

/-- Whether a text comes before another one: their first difference decides, then the length. -/
def isBefore (a b : Text) : Bool := decide (a.map TextUnit.code < b.map TextUnit.code)

theorem ofChars_append (cs ds : List Char) : ofChars (cs ++ ds) = ofChars cs ++ ofChars ds :=
  List.map_append

theorem filterMap_char?_ofChars (cs : List Char) :
    (ofChars cs).filterMap TextUnit.char? = cs := by
  rw [ofChars, List.filterMap_map]
  exact List.filterMap_some

@[simp] theorem toChars?_map_char (cs : List Char) :
    toChars? (cs.map .char) = some cs := by
  induction cs with
  | nil => rfl
  | cons c cs ih => simp [toChars?, ih]

theorem eq_map_char_of_toChars? {t : Text} {cs : List Char} (h : toChars? t = some cs) :
    t = cs.map .char := by
  induction t generalizing cs with
  | nil => cases h; rfl
  | cons u t ih =>
    cases u with
    | half _ | byte _ => cases h
    | char c =>
      obtain ⟨ds, hds, rfl⟩ := Option.map_eq_some_iff.1 h
      simp [ih hds]

@[simp] theorem toString?_ofString (s : String) : toString? (ofString s) = some s := by
  simp [toString?, ofString, ofChars]

theorem toString?_eq_some_iff {t : Text} {s : String} : toString? t = some s ↔ t = ofString s := by
  constructor
  · intro h
    obtain ⟨cs, hcs, rfl⟩ := Option.map_eq_some_iff.1 h
    simp [ofString, ofChars, eq_map_char_of_toChars? hcs]
  · rintro rfl
    exact toString?_ofString s

theorem ofString_inj {a b : String} : ofString a = ofString b ↔ a = b := by
  constructor
  · intro h
    have := congrArg toString? h
    simpa using this
  · rintro rfl
    rfl

@[simp] theorem ofString_append (a b : String) : ofString (a ++ b) = ofString a ++ ofString b := by
  simp [ofString, ofChars]

theorem hasByte_ofString (s : String) : (ofString s).hasByte = false := by
  simp [hasByte, ofString, ofChars, TextUnit.isByte]

/-- The texts between the occurrences of the separator put together again. -/
def joinWith (separator : Text) : List Text → Text
  | [] => []
  | [t] => t
  | t :: rest => t ++ separator ++ joinWith separator rest

end Text

end ReleaseNotes
