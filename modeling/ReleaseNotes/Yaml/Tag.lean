/-
Tags of YAML.

A tag says what a node stands for.  A scalar without a tag has the one that its text calls for.

Main statements:
* `Yaml.Tag` — the tags, and `Yaml.Tag.ofName` by name;
* `Yaml.Tag.ofPlain` — the tag that a plain text calls for.
-/
import ReleaseNotes.Yaml.Cursor
import ReleaseNotes.Yaml.Time

namespace ReleaseNotes
namespace Yaml

/-- The tags. -/
inductive Tag where
  | null
  | boolean
  | integer
  | number
  | binary
  | time
  | text
  | sequence
  | mapping
  | set
  | orderedPairs
  | pairs
  /-- The key whose value's pairs are added to the mapping. -/
  | merge
  /-- The key of the value that stands for the mapping. -/
  | standIn
  | unknown
  deriving DecidableEq, Repr

namespace Tag

/-- What the names of the tags begin with. -/
def start : String := "tag:yaml.org,2002:"

/-- The tags and what their names end with. -/
def names : List (String × Tag) := [
  ("null", null), ("bool", boolean), ("int", integer), ("float", number), ("binary", binary),
  ("timestamp", time), ("str", text), ("seq", sequence), ("map", mapping), ("set", set),
  ("omap", orderedPairs), ("pairs", pairs), ("merge", merge), ("value", standIn)]

/-- The tag of a name. -/
def ofName (name : String) : Tag :=
  ((names.find? fun (ending, _) => start ++ ending == name).map Prod.snd).getD unknown

/-! ### Plain texts -/

/-- The texts that stand for nothing. -/
def nullTexts : List String := ["", "~", "null", "Null", "NULL"]

/-- The words for truth values. -/
def booleanWords : List (String × Bool) := [
  ("yes", true), ("no", false), ("true", true), ("false", false), ("on", true), ("off", false)]

/-- Whether the characters are the word in small letters, with a capital, or in capitals. -/
def isCased (word : String) (cs : List Char) : Bool :=
  cs == word.toList || cs == word.capitalize.toList || cs == word.toUpper.toList

/-- The characters behind a sign. -/
def unsigned : List Char → List Char
  | '-' :: cs => cs
  | '+' :: cs => cs
  | cs => cs

/-- Whether the character is a digit or joins digits. -/
def isDigitOrJoint (c : Char) : Bool := c.isDigit || c == '_'

/-- Whether the characters are a digit and more digits with joints. -/
def isNumeral : List Char → Bool
  | c :: cs => c.isDigit && cs.all isDigitOrJoint
  | [] => false

/-- Whether the characters are the digits of sixty-to-one parts: one or two digits, below sixty. -/
def isSixtieth : List Char → Bool
  | [a] => a.isDigit
  | [a, b] => '0' ≤ a && a ≤ '5' && b.isDigit
  | _ => false

/-- Whether the characters are nothing, or a mark with a signed exponent. -/
def isExponent : List Char → Bool
  | [] => true
  | e :: s :: d :: ds =>
    (e == 'e' || e == 'E') && (s == '+' || s == '-') && (d :: ds).all Char.isDigit
  | _ => false

/-- Whether the characters are a fraction behind its point, with an exponent or without. -/
def isFraction (cs : List Char) : Bool := isExponent (cs.dropWhile isDigitOrJoint)

/-- Whether the text is a number with a point. -/
def isNumber (cs : List Char) : Bool :=
  let body := unsigned cs
  let whole := body.takeWhile (· != '.')
  match body.dropWhile (· != '.') with
  | [] => false
  | _ :: fraction =>
    (isNumeral whole && isFraction fraction) ||
      (whole.isEmpty && body == cs && isNumeral (fraction.take 1) && isFraction fraction) ||
      (match whole.splitOn ':' with
        | first :: second :: more =>
          isNumeral first && (second :: more).all isSixtieth && fraction.all isDigitOrJoint
        | _ => false) ||
      (whole.isEmpty && isCased "inf" fraction) ||
      (whole.isEmpty && body == cs && ["nan", "NaN", "NAN"].any fun s => fraction == s.toList)

/-- Whether the characters are digits of a base or joints, at least one. -/
def areDigits (test : Char → Bool) (cs : List Char) : Bool :=
  !cs.isEmpty && cs.all fun c => test c || c == '_'

/-- Whether the text is an integer. -/
def isInteger (cs : List Char) : Bool :=
  let body := unsigned cs
  let isOctal := fun c : Char => '0' ≤ c && c ≤ '7'
  match body with
  | ['0'] => true
  | '0' :: 'b' :: ds => areDigits (fun c => c == '0' || c == '1') ds
  | '0' :: 'x' :: ds => areDigits (fun c => (Json.Reader.hexValue? c).isSome) ds
  | '0' :: ds => areDigits isOctal ds
  | _ => match body.splitOn ':' with
    | first :: parts => isNumeral first && parts.all isSixtieth
    | [] => false

/-- Whether the text is a day, or a day with a time. -/
def isTime (cs : List Char) : Bool :=
  match WrittenTime.ofChars? cs with
  | some t => t.clock.isSome || t.isPadded
  | none => false

/-- The tag that a plain text calls for. -/
def ofPlain (cs : List Char) : Tag :=
  if nullTexts.any fun s => cs == s.toList then null
  else if booleanWords.any fun (word, _) => isCased word cs then boolean
  else if isNumber cs then number
  else if isInteger cs then integer
  else if cs == ['<', '<'] then merge
  else if cs == ['='] then standIn
  else if isTime cs then time
  else if [['!'], ['&'], ['*']].contains cs then unknown
  else text

end Tag
end Yaml
end ReleaseNotes
