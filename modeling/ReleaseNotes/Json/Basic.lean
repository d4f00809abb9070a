/-
JSON values.

Integers and floats are told apart, an object keeps its fields in the order of their first
appearance, and a text may hold lone surrogate halves.

Main statements:
* `Json.put` — a field set in a list of fields: the last value wins, the first position stays;
* `Json.field?` — looking a field up;
* `Json.isVoid` — the values that stand for nothing.
-/
import ReleaseNotes.Text

namespace ReleaseNotes

/-- A JSON value. -/
inductive Json where
  | null
  | bool (b : Bool)
  | int (n : Int)
  | float (x : Float)
  | str (t : Text)
  | arr (items : List Json)
  | obj (fields : List (Text × Json))
  deriving Inhabited

namespace Json

/-- The fields of an object. -/
abbrev Fields := List (Text × Json)

/-- A string as a value. -/
def text (s : String) : Json := .str s

/-- A natural number as a value. -/
def nat (n : Nat) : Json := .int n

/-- An object written down with its names as strings. -/
def record (fields : List (String × Json)) : Json :=
  .obj (fields.map fun (name, v) => (Text.ofString name, v))

/-- The field set to the value, at its old place if it has one and at the end otherwise. -/
def put (name : Text) (v : Json) : Fields → Fields
  | [] => [(name, v)]
  | (key, old) :: rest => if key = name then (key, v) :: rest else (key, old) :: put name v rest

/-- The value of a field. -/
def lookup (name : Text) : Fields → Option Json
  | [] => none
  | (key, v) :: rest => if key = name then some v else lookup name rest

/-- The value of a field of an object. -/
def field? (j : Json) (name : String) : Option Json :=
  match j with
  | obj fields => lookup name fields
  | _ => none

/-- Whether a value stands for nothing: null, false, zero, and whatever is empty. -/
def isVoid : Json → Bool
  | null => true
  | bool b => !b
  | int n => n == 0
  | float x => x == 0.0
  | str t => t.isEmpty
  | arr items => items.isEmpty
  | obj fields => fields.isEmpty

/-- The word for the kind of a value in the messages of tools and clients. -/
def kindName : Json → String
  | null => "NoneType"
  | bool _ => "bool"
  | int _ => "int"
  | float _ => "float"
  | str _ => "str"
  | arr _ => "list"
  | obj _ => "dict"

end Json
end ReleaseNotes
