/-
Checks.

A check turns a JSON value into a value of a type, or says what is wrong with it.  Numbers and truth
values are also accepted in other spellings; unknown fields of an object are ignored.

Main statements:
* `Check` — a check of one value;
* `Check.text`, `Check.integer`, `Check.number`, `Check.boolean`, `Check.list` — plain values;
* `Check.atLeast`, `Check.nullable`, `Check.choice` — values that are restricted or optional;
* `Check.object`, `Check.required`, `Check.optional` — models and their fields;
* `Check.required_eq_ok`, `Check.optional_eq_ok` — fields that are there and pass their check.
-/
import ReleaseNotes.Validation.Numerals
import ReleaseNotes.Validation.Validated

namespace ReleaseNotes

/-- A check of a value. -/
abbrev Check (α : Type) := Json → Validated α

namespace Check

variable {α β : Type}

/-- A single problem with the value itself. -/
def refuse (cause : Cause) (input : Json) : Validated α := .bad [⟨[], cause, input⟩]

/-- The check with its value changed. -/
def map (f : α → β) (check : Check α) : Check β := fun j => (check j).map f

/-! ### Texts -/

/-- A text that was decoded, whatever its units are. -/
def text : Check Text
  | .str t => if t.hasByte then refuse .undecodable (.str t) else .ok t
  | j => refuse .notString j

/-- A text of characters alone. -/
def string : Check String
  | .str t => match t.toString? with
    | some s => .ok s
    | none => refuse .undecodable (.str t)
  | j => refuse .notString j

/-- A string of so many characters at least. -/
def stringOf (least : Nat) : Check String := fun j =>
  (string j).andThen fun s => if s.length < least then refuse (.shortString least) j else .ok s

/-- A string that passes a test. -/
def stringLike (pattern : String) (test : String → Bool) : Check String := fun j =>
  (string j).andThen fun s => if test s then .ok s else refuse (.mismatch pattern) j

/-! ### Numbers -/

/-- Floats beyond this magnitude stand for no integer. -/
def integerRange : Float := 9223372036854775808.0

/-- The integer that a float stands for. -/
def integerOfFloat (x : Float) : Validated Int :=
  if x.isNaN || x.isInf then refuse .notFinite (.float x)
  else if x.floor != x then refuse .fractional (.float x)
  else if !(x.abs < integerRange) then refuse .integerSize (.float x)
  else
    let n : Int := x.abs.toUInt64.toNat
    .ok (if x < 0.0 then -n else n)

/-- An integer. -/
def integer : Check Int
  | .int n => .ok n
  | .bool b => .ok (if b then 1 else 0)
  | .float x => integerOfFloat x
  | .str t => match t.toChars? with
    | none => refuse (if t.hasByte then .integerSyntax else .undecodable) (.str t)
    | some cs => match Spelling.integer? cs with
      | .value n => .ok n
      | .tooLong => refuse .integerSize (.str t)
      | .none => refuse .integerSyntax (.str t)
  | j => refuse .notInteger j

/-- An integer that is not below a bound. -/
def atLeast (bound : Int) : Check { n : Int // bound ≤ n } := fun j =>
  (integer j).andThen fun n => if h : bound ≤ n then .ok ⟨n, h⟩ else refuse (.below bound) j

/-- A natural number that is not below a bound. -/
def naturalFrom (bound : Nat) : Check { n : Nat // bound ≤ n } := fun j =>
  (atLeast bound j).map fun ⟨n, h⟩ => ⟨n.toNat, by omega⟩

/-- A natural number. -/
def natural : Check Nat := map Subtype.val (naturalFrom 0)

/-- A number. -/
def number : Check Float
  | .int n =>
    let x := Decimal.floatOfInt n
    if x.isInf then refuse .notNumber (.int n) else .ok x
  | .bool b => .ok (if b then 1.0 else 0.0)
  | .float x => .ok x
  | .str t => match t.toChars? with
    | none => refuse (if t.hasByte then .numberSyntax else .undecodable) (.str t)
    | some cs => match Spelling.number? cs with
      | some x => .ok x
      | none => refuse .numberSyntax (.str t)
  | j => refuse .notNumber j

/-- The float of a whole bound. -/
def bound (n : Int) : Float := Decimal.floatOfInt n

/-! ### Truth values -/

/-- The words for false. -/
def falseWords : List String := ["0", "off", "f", "false", "n", "no"]

/-- The words for true. -/
def trueWords : List String := ["1", "on", "t", "true", "y", "yes"]

/-- Whether an integer has sixty-four bits with its sign. -/
def isWord (n : Int) : Bool := -(Nat.pow 2 63 : Int) ≤ n && n < (Nat.pow 2 63 : Int)

/-- A truth value. -/
def boolean : Check Bool
  | .bool b => .ok b
  | .int n =>
    if n = 0 then .ok false
    else if n = 1 then .ok true
    else refuse (if isWord n then .booleanSyntax else .notBoolean) (.int n)
  | .float x => match integerOfFloat x with
    | .ok n =>
      if n = 0 then .ok false else if n = 1 then .ok true else refuse .booleanSyntax (.float x)
    | .bad _ => refuse .notBoolean (.float x)
  | .str t => match t.toChars? with
    | none => refuse .undecodable (.str t)
    | some cs =>
      if falseWords.any fun w => Spelling.spells w cs then .ok false
      else if trueWords.any fun w => Spelling.spells w cs then .ok true
      else refuse .booleanSyntax (.str t)
  | j => refuse .notBoolean j

/-! ### Choices -/

/-- The first of the choices whose word is the value; what else a value is, is told by a cause.  A
text with a unit that is no character is no word at all. -/
def pick (otherwise : Cause) (word : α → String) (choices : List α) : Check α := fun j =>
  match j with
  | .str t =>
    if t.toChars?.isNone then refuse .undecodable j
    else match choices.find? fun a => t.isString (word a) with
      | some a => .ok a
      | none => refuse otherwise j
  | _ => refuse otherwise j

/-- One of several values that go by a word. -/
def choice (word : α → String) (choices : List α) : Check α :=
  pick (.notChoice (choices.map word)) word choices

/-- One of several words. -/
def literal (word : α → String) (choices : List α) : Check α :=
  pick (.notLiteral (choices.map word)) word choices

/-- A value or null. -/
def nullable (check : Check α) : Check (Option α)
  | .null => .ok none
  | j => (check j).map some

/-! ### Lists and objects -/

/-- The items of a list, from an index on. -/
def itemsFrom (check : Check α) : Nat → List Json → Validated (List α)
  | _, [] => .ok []
  | i, j :: rest =>
    (((check j).under (.index i)).map List.cons).ap (itemsFrom check (i + 1) rest)

/-- A list. -/
def list (check : Check α) : Check (List α)
  | .arr items => itemsFrom check 0 items
  | j => refuse .notList j

/-- A list of one item at least. -/
def nonEmptyList (check : Check α) : Check { l : List α // l ≠ [] } := fun j =>
  (list check j).andThen fun
    | [] => refuse (.shortList 1 0) j
    | a :: rest => .ok ⟨a :: rest, by simp⟩

/-- A list of so many items at most. -/
def listUpTo (most : Nat) (check : Check α) : Check (List α) := fun j =>
  (list check j).andThen fun l =>
    if most < l.length then refuse (.longList most l.length) j else .ok l

/-- An object whose values are not looked at. -/
def dictionary : Check Json.Fields
  | .obj fields => .ok fields
  | j => refuse .notDictionary j

/-- An object with the fields of a model. -/
def object (model : String) (read : Json.Fields → Validated α) : Check α
  | .obj fields => read fields
  | j => refuse (.notObject model) j

/-- A field that must be there. -/
def required (fields : Json.Fields) (name : String) (check : Check α) : Validated α :=
  match Json.lookup name fields with
  | some j => (check j).under (.field name)
  | none => .bad [⟨[.field name], .missing, .obj fields⟩]

/-- A field that may be absent. -/
def optional (fields : Json.Fields) (name : String) (default : α) (check : Check α) : Validated α :=
  match Json.lookup name fields with
  | some j => (check j).under (.field name)
  | none => .ok default

theorem required_eq_ok {fields : Json.Fields} {name : String} {check : Check α} {j : Json} {a : α}
    (hj : Json.lookup name fields = some j) (ha : check j = .ok a) :
    required fields name check = .ok a := by
  simp [required, hj, ha, Validated.under]

theorem optional_eq_ok {fields : Json.Fields} {name : String} {default : α} {check : Check α}
    {j : Json} {a : α} (hj : Json.lookup name fields = some j) (ha : check j = .ok a) :
    optional fields name default check = .ok a := by
  simp [optional, hj, ha, Validated.under]

end Check
end ReleaseNotes
