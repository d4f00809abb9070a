/-
Values of scalars.

What the text of a scalar stands for, given its tag.

Main statements:
* `Yaml.Scalar.integer`, `Yaml.Scalar.number`, `Yaml.Scalar.boolean`, `Yaml.Scalar.time`,
  `Yaml.Scalar.binary` — the values by their kind;
* `Yaml.Scalar.value` — the value by its tag.
-/
import ReleaseNotes.Text.Base64
import ReleaseNotes.Text.Digit
import ReleaseNotes.Text.SmallLetter
import ReleaseNotes.Validation.Numerals
import ReleaseNotes.Yaml.Tag

namespace ReleaseNotes
namespace Yaml
namespace Scalar

/-- A value that cannot be built. -/
def refuse {α : Type} (kind : FailureKind) (message : String) : Except Fault α :=
  .error (.unbuildable (.outside kind (Text.ofString message)))

/-- A value that no JSON value is.  No setting takes a list, so none takes this value. -/
def beyondJson : Json := .arr [.null]

/-! ### Numbers -/

/-- The text without underscores. -/
def withoutJoints (t : Text) : Text := t.filter (· != .char '_')

/-- The sign of a text and what follows it, unless the text is empty. -/
def signed (t : Text) : Except Fault (Bool × Text) :=
  match t with
  | [] => refuse .index "string index out of range"
  | .char '-' :: rest => .ok (true, rest)
  | .char '+' :: rest => .ok (false, rest)
  | _ => .ok (false, t)

/-- A magnitude with its sign. -/
def withSign (negative : Bool) (n : Int) : Int := if negative then -n else n

/-- The characters with the digits of all scripts as plain digits, without the blanks at both
ends. -/
def plainDigits (cs : List Char) : List Char :=
  (Spelling.trim cs).map fun c => (decimalDigit? c).elim c Nat.digitChar

/-- The characters behind a mark of the base. -/
def withoutBaseMark (base : Nat) (cs : List Char) : List Char :=
  let marks := if base = 2 then ['b', 'B'] else if base = 8 then ['o', 'O']
    else if base = 16 then ['x', 'X'] else []
  match cs with
  | '0' :: c :: rest => if marks.contains c then rest else cs
  | _ => cs

/-- The value of a digit to a base. -/
def digit? (base : Nat) (c : Char) : Option Nat :=
  (Json.Reader.hexValue? c).filter (· < base)

/-- How much of a text a message shows. -/
def shownLength : Nat := 200

/-- A text that is no integer to a base. -/
def notInteger {α : Type} (base : Nat) (t : Text) : Except Fault α :=
  refuse .value ("invalid literal for int() with base " ++ Numeral.print base ++ ": " ++
    String.ofList ((Text.quoted t).toList.take shownLength))

/-- The integer that a text writes to a base. -/
def integerTo (base : Nat) (t : Text) : Except Fault Int :=
  match t.toChars? with
  | none => notInteger base t
  | some cs =>
    let (negative, body) := Spelling.signed (plainDigits cs)
    let ds := withoutBaseMark base body
    match ds.mapM (digit? base) with
    | none => notInteger base t
    | some values =>
      if values.isEmpty then notInteger base t
      else if base = 10 ∧ Numeral.maxDigits < values.length then
        .error (.unbuildable (.numeral (.reading values.length)))
      else .ok (withSign negative ((values.foldl (fun n d => base * n + d) 0 : Nat)))

/-- The value of parts of which each counts sixty times the next. -/
def sixtieths (values : List Int) : Int := values.foldl (fun n d => 60 * n + d) 0

/-- The integer that a scalar stands for: after a zero its digits are octal, unless a letter names
another base. -/
def integer (t : Text) : Except Fault Int := do
  let (negative, body) ← signed (withoutJoints t)
  let magnitude ← match body with
    | [] => refuse .index "string index out of range"
    | [.char '0'] => .ok 0
    | .char '0' :: .char 'b' :: ds => integerTo 2 ds
    | .char '0' :: .char 'x' :: ds => integerTo 16 ds
    | .char '0' :: _ => integerTo 8 body
    | _ =>
      if body.contains (.char ':') then
        sixtieths <$> (body.splitOn (.char ':')).mapM (integerTo 10)
      else integerTo 10 body
  return withSign negative magnitude

/-- The number that a text writes. -/
def numberOf (t : Text) : Except Fault Float :=
  match t.toChars?.bind fun cs => Spelling.readNumber (plainDigits cs) with
  | some x => .ok x
  | none => refuse .value ("could not convert string to float: " ++ Text.quoted t)

/-- How much a part counts, unless it is too much for a number. -/
def weightOf (n : Nat) : Except Fault Float :=
  if Decimal.wholeLimit ≤ n then
    refuse (.other "OverflowError") "int too large to convert to float"
  else .ok (Decimal.floatOfInt n)

/-- A sum with further parts, the last one first: it counts so much, and each other one sixty times
as much as the one before. -/
def withSixtieths : Float → Nat → List Float → Except Fault Float
  | sum, _, [] => .ok sum
  | sum, weight, part :: parts => do
    let counted := part * (← weightOf weight)
    withSixtieths (sum + counted) (60 * weight) parts

/-- The number that a scalar stands for. -/
def number (t : Text) : Except Fault Float := do
  let (negative, body) ← signed (withoutJoints t).lowered
  let magnitude ←
    if body.isString ".inf" then .ok (1.0 / 0.0 : Float)
    else if body.isString ".nan" then .ok (0.0 / 0.0 : Float)
    else if body.contains (.char ':') then do
      let parts ← (body.splitOn (.char ':')).mapM numberOf
      withSixtieths 0.0 1 parts.reverse
    else numberOf body
  return if negative then -magnitude else magnitude

/-! ### Other values -/

/-- The truth value that a word stands for. -/
def boolean (t : Text) : Except Fault Bool :=
  match Tag.booleanWords.find? fun (word, _) => t.lowered.isString word with
  | some (_, b) => .ok b
  | none => .error (.unbuildable (.missingKey (.str t.lowered)))

/-- A time, which must exist. -/
def time (t : Text) : Except Fault Json :=
  match t.toChars?.bind fun cs => WrittenTime.ofChars? (withoutBreak cs) with
  | none => .error (.unbuildable (.misuse (.noMember "NoneType" "groupdict")))
  | some w => match w.problem? with
    | some problem => refuse .value problem
    | none => .ok beyondJson

/-- The text whose bytes are written with sixty-four characters; bytes that are no text stay
bytes. -/
def binary (t : Text) : Except Fault Json :=
  match t.toChars?.bind fun cs => if cs.all (·.toNat < 128) then Base64.decode? cs else none with
  | none => .error .malformed
  | some bytes => match String.fromUTF8? ⟨bytes.toArray⟩ with
    | some s => .ok (.text s)
    | none => .ok (.str (bytes.map .byte))

/-- The value of a scalar. -/
def value (tag : Tag) (t : Text) : Except Fault Json :=
  match tag with
  | .null => .ok .null
  | .boolean => Json.bool <$> boolean t
  | .integer => Json.int <$> integer t
  | .number => Json.float <$> number t
  | .binary => binary t
  | .time => time t
  | .text => .ok (.str t)
  | _ => .error .malformed

end Scalar
end Yaml
end ReleaseNotes
