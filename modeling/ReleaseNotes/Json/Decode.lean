/-
Reading JSON.

A reader of JSON text over the units that remain.  It accepts `NaN` and the two infinities,
joins surrogate escapes to characters, and refuses numerals of more than `Numeral.maxDigits` digits
and values nested deeper than `Json.maxDepth`.

Main statements:
* `Json.Reader.value` — one value, off the front of the text;
* `Json.decode` — a whole text;
* `Json.DecodeError` — why a text is refused, and where.
-/
import ReleaseNotes.Json.Basic
import ReleaseNotes.Decimal.Reading

namespace ReleaseNotes
namespace Json

/-- How deeply arrays and objects may be nested. -/
def maxDepth : Nat := 900

/-- What is wrong with a text that is no JSON. -/
inductive SyntaxProblem where
  | value
  | fieldName
  | colon
  | comma
  | unterminated
  | controlCharacter
  | escape
  | unicodeEscape
  | extraData
  | byteOrderMark
  deriving DecidableEq, Repr

/-- The description of a problem. -/
def SyntaxProblem.message : SyntaxProblem → String
  | value => "Expecting value"
  | fieldName => "Expecting property name enclosed in double quotes"
  | colon => "Expecting ':' delimiter"
  | comma => "Expecting ',' delimiter"
  | unterminated => "Unterminated string starting at"
  | controlCharacter => "Invalid control character at"
  | escape => "Invalid \\escape"
  | unicodeEscape => "Invalid \\uXXXX escape"
  | extraData => "Extra data"
  | byteOrderMark => "Unexpected UTF-8 BOM (decode using utf-8-sig)"

/-- The kinds of value that hold others. -/
inductive Container where
  | array
  | object
  deriving DecidableEq, Repr

/-- The word for a kind of value that holds others. -/
def Container.word : Container → String
  | array => "array"
  | object => "object"

namespace Reader

/-- Why a reader stops.  A problem keeps the text from its place to the end. -/
inductive Fault where
  | malformed (problem : SyntaxProblem) (rest : Text)
  | tooManyDigits (count : Nat)
  | tooDeep (innermost : Container)

/-- Whether a character may stand between tokens. -/
def isSpace (c : Char) : Bool := c == ' ' || c == '\t' || c == '\n' || c == '\r'

/-- The text from the next token on. -/
def skip (t : Text) : Text := t.dropWhile fun u => u.passes isSpace

/-- The text behind a given word, if it begins with it. -/
def after? : List Char → Text → Option Text
  | [], t => some t
  | _ :: _, [] => none
  | w :: ws, u :: t => if u = .char w then after? ws t else none

/-! ### Strings -/

/-- The value of a hexadecimal digit. -/
def hexValue? (c : Char) : Option Nat :=
  if c.isDigit then some (c.toNat - 48)
  else if 'a' ≤ c ∧ c ≤ 'f' then some (c.toNat - 87)
  else if 'A' ≤ c ∧ c ≤ 'F' then some (c.toNat - 55)
  else none

/-- The code unit that four hexadecimal digits stand for. -/
def codeUnit? (a b c d : TextUnit) : Option Nat := do
  let a ← a.char?.bind hexValue?
  let b ← b.char?.bind hexValue?
  let c ← c.char?.bind hexValue?
  let d ← d.char?.bind hexValue?
  return ((a * 16 + b) * 16 + c) * 16 + d

/-- The unit of text that a code unit stands for on its own. -/
def unitOfCode (n : Nat) : TextUnit :=
  if h : 0xD800 ≤ n ∧ n < 0xE000 then .half ⟨n - 0xD800, by omega⟩ else .char (Char.ofNat n)

/-- The units so far, last first, with one more that was escaped like the one before: a low half
joins a high half. -/
def push (read : Text) (u : TextUnit) : Text :=
  match u, read with
  | .half low, .half high :: before =>
    if high.val < 0x400 ∧ 0x400 ≤ low.val then
      .char (Char.ofNat (0x10000 + high.val * 0x400 + (low.val - 0x400))) :: before
    else u :: read
  | _, _ => u :: read

/-- The character that a backslash and a letter stand for. -/
def escaped? : Char → Option Char
  | '"' => some '"'
  | '\\' => some '\\'
  | '/' => some '/'
  | 'b' => some '\x08'
  | 'f' => some '\x0c'
  | 'n' => some '\n'
  | 'r' => some '\r'
  | 't' => some '\t'
  | _ => none

/-- The rest of a string whose opening quotation mark is the first unit of `start`, with the units
read so far, last first, and whether the last one was escaped by its code. -/
def stringBody (start : Text) (read : Text) (coded : Bool) : Text → Except Fault (Text × Text)
  | [] => .error (.malformed .unterminated start)
  | .char '"' :: rest => .ok (read.reverse, rest)
  | [.char '\\'] => .error (.malformed .unterminated start)
  | .char '\\' :: .char 'u' :: a :: b :: c :: d :: e :: rest =>
    match codeUnit? a b c d with
    | some n =>
      let u := unitOfCode n
      stringBody start (if coded then push read u else u :: read) true (e :: rest)
    | none => .error (.malformed .unicodeEscape (.char 'u' :: a :: b :: c :: d :: e :: rest))
  | .char '\\' :: .char 'u' :: rest => .error (.malformed .unicodeEscape (.char 'u' :: rest))
  | .char '\\' :: u :: rest =>
    match u.char?.bind escaped? with
    | some x => stringBody start (.char x :: read) false rest
    | none => .error (.malformed .escape (.char '\\' :: u :: rest))
  | u :: rest =>
    if u.code < 0x20 then .error (.malformed .controlCharacter (u :: rest))
    else stringBody start (u :: read) false rest

/-! ### Numbers -/

/-- The spelling of a number. -/
structure Number where
  negative : Bool
  whole : List Char
  fraction : List Char
  exponent : Option (Bool × List Char)

/-- The digits at the front, and what follows them. -/
def takeDigits (t : Text) : List Char × Text :=
  (t.charsWhile Char.isDigit, t.dropWhile fun u => u.passes Char.isDigit)

/-- The digits before the fraction: a single zero, or digits that begin with none. -/
def wholePart? : Text → Option (List Char × Text)
  | .char '0' :: rest => some (['0'], rest)
  | u :: rest => if u.passes Char.isDigit then some (takeDigits (u :: rest)) else none
  | [] => none

/-- The digits behind a point, if at least one is there. -/
def fractionPart : Text → List Char × Text
  | .char '.' :: u :: rest =>
    if u.passes Char.isDigit then takeDigits (u :: rest) else ([], .char '.' :: u :: rest)
  | t => ([], t)

/-- The sign and the digits of an exponent, if it has digits. -/
def exponentPart (t : Text) : Option (Bool × List Char) × Text :=
  match t with
  | e :: rest =>
    if e = .char 'e' ∨ e = .char 'E' then
      let (negative, digits) := match rest with
        | .char '-' :: r => (true, r)
        | .char '+' :: r => (false, r)
        | r => (false, r)
      match takeDigits digits with
      | ([], _) => (none, t)
      | (ds, behind) => (some (negative, ds), behind)
    else (none, t)
  | [] => (none, t)

/-- The spelling of a number at the front of the text. -/
def number? (t : Text) : Option (Number × Text) :=
  let (negative, unsigned) := match t with
    | .char '-' :: rest => (true, rest)
    | rest => (false, rest)
  (wholePart? unsigned).map fun (whole, rest) =>
    let (fraction, rest) := fractionPart rest
    let (exponent, rest) := exponentPart rest
    (⟨negative, whole, fraction, exponent⟩, rest)

/-- The value of a number: an integer unless it has a fraction or an exponent. -/
def Number.value (n : Number) : Except Fault Json :=
  match n.fraction, n.exponent with
  | [], none =>
    if Numeral.maxDigits < n.whole.length then .error (.tooManyDigits n.whole.length)
    else
      let m : Int := Numeral.value n.whole
      .ok (.int (if n.negative then -m else m))
  | fraction, exponent =>
    let shift : Int := match exponent with
      | none => 0
      | some (true, ds) => -(Numeral.value ds : Int)
      | some (false, ds) => (Numeral.value ds : Int)
    let m := Decimal.toFloat ⟨Numeral.value (n.whole ++ fraction), shift - fraction.length⟩
    .ok (.float (if n.negative then -m else m))

/-! ### Values -/

/-- The words that stand for a value. -/
def words : List (List Char × Json) := [
  ("null".toList, .null), ("true".toList, .bool true), ("false".toList, .bool false),
  ("NaN".toList, .float (0.0 / 0.0)), ("Infinity".toList, .float (1.0 / 0.0)),
  ("-Infinity".toList, .float (-1.0 / 0.0))]

/-- A word or a number. -/
def scalar (t : Text) : Except Fault (Json × Text) :=
  match words.findSome? fun (word, v) => (after? word t).map fun rest => (v, rest) with
  | some found => .ok found
  | none =>
    match number? t with
    | some (n, rest) => n.value.map fun v => (v, rest)
    | none => .error (.malformed .value t)

mutual

/-- One value off the front of the text.  The first number bounds the steps, the second says how
many arrays and objects may still be opened. -/
def value : Nat → Nat → Text → Except Fault (Json × Text)
  | 0, _, t => .error (.malformed .value t)
  | fuel + 1, depth, t =>
    match t, depth with
    | .char '"' :: rest, _ => do
      let (s, rest) ← stringBody t [] false rest
      return (.str s, rest)
    | .char '{' :: _, 0 => .error (.tooDeep .object)
    | .char '{' :: rest, depth + 1 =>
      match skip rest with
      | .char '}' :: rest => return (.obj [], rest)
      | rest => do
        let (fields, rest) ← fields fuel depth [] rest
        return (.obj fields, rest)
    | .char '[' :: _, 0 => .error (.tooDeep .array)
    | .char '[' :: rest, depth + 1 =>
      match skip rest with
      | .char ']' :: rest => return (.arr [], rest)
      | rest => do
        let (items, rest) ← items fuel depth rest
        return (.arr items, rest)
    | t, _ => scalar t

/-- The items of an array, at least one, and its closing bracket. -/
def items : Nat → Nat → Text → Except Fault (List Json × Text)
  | 0, _, t => .error (.malformed .value t)
  | fuel + 1, depth, t => do
    let (v, rest) ← value fuel depth t
    match skip rest with
    | .char ']' :: rest => return ([v], rest)
    | .char ',' :: rest =>
      let (vs, rest) ← items fuel depth (skip rest)
      return (v :: vs, rest)
    | rest => .error (.malformed .comma rest)

/-- The fields of an object, at least one, and its closing brace, with the fields read so far. -/
def fields : Nat → Nat → Fields → Text → Except Fault (Fields × Text)
  | 0, _, _, t => .error (.malformed .value t)
  | fuel + 1, depth, read, t =>
    match t with
    | .char '"' :: rest => do
      let (name, rest) ← stringBody t [] false rest
      match skip rest with
      | .char ':' :: rest =>
        let (v, rest) ← value fuel depth (skip rest)
        match skip rest with
        | .char '}' :: rest => return (put name v read, rest)
        | .char ',' :: rest => fields fuel depth (put name v read) (skip rest)
        | rest => .error (.malformed .comma rest)
      | rest => .error (.malformed .colon rest)
    | t => .error (.malformed .fieldName t)

end

/-- A whole text: one value, and nothing but spaces around it. -/
def document (t : Text) : Except Fault Json := do
  let (v, rest) ← value (2 * t.length + 2) maxDepth (skip t)
  match skip rest with
  | [] => return v
  | rest => .error (.malformed .extraData rest)

end Reader

/-- Why a text is refused. -/
inductive DecodeError where
  | malformed (problem : SyntaxProblem) (position line column : Nat)
  | tooManyDigits (count : Nat)
  | tooDeep (innermost : Container)
  deriving DecidableEq, Repr

/-- The place of a fault in the text. -/
def Reader.Fault.locate (t : Text) : Reader.Fault → DecodeError
  | .malformed problem rest =>
    let before := t.take (t.length - rest.length)
    let line := before.reverse.takeWhile (· != .char '\n')
    .malformed problem before.length (before.count (.char '\n') + 1) (line.length + 1)
  | .tooManyDigits count => .tooManyDigits count
  | .tooDeep innermost => .tooDeep innermost

/-- The value of a text that may begin with a byte order mark.  The text is that of bytes in UTF-8;
bytes in any other encoding are no text here. -/
def decodeMarked (t : Text) : Except DecodeError Json :=
  let t := match t with
    | .char '\uFEFF' :: rest => rest
    | t => t
  (Reader.document t).mapError (Reader.Fault.locate t)

/-- The value of a text. -/
def decode (t : Text) : Except DecodeError Json :=
  match t with
  | .char '\uFEFF' :: _ => .error (.malformed .byteOrderMark 0 1 1)
  | t => (Reader.document t).mapError (Reader.Fault.locate t)

end Json
end ReleaseNotes
