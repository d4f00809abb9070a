/-
Values that leave the program.

A document or an answer is encoded text with numbers: a lone half of a character has no encoding,
and a float that is no number has no numeral.

Main statements:
* `Json.isSendable` — whether an answer can hold a value as it is;
* `Json.presentable` — the value with null for the floats that are no numbers, and with names that
  can be encoded;
* `Json.document` — the document of a value, unless one of its texts cannot be encoded.
-/
import ReleaseNotes.Json.Print
import ReleaseNotes.Text.Encoding

namespace ReleaseNotes
namespace Json

mutual

/-- Whether an answer can hold a value: it has no lone halves and no floats that are no numbers. -/
def isSendable : Json → Bool
  | float x => !x.isNaN && !x.isInf
  | str t => t.toChars?.isSome
  | arr items => areSendable items
  | obj fields => fieldsAreSendable fields
  | _ => true

/-- The same for items. -/
def areSendable : List Json → Bool
  | [] => true
  | v :: vs => v.isSendable && areSendable vs

/-- The same for fields. -/
def fieldsAreSendable : List (Text × Json) → Bool
  | [] => true
  | (name, v) :: rest => name.toChars?.isSome && v.isSendable && fieldsAreSendable rest

/-- The value with null for the floats that are no numbers, and with replacement characters for the
lone halves of its names. -/
def presentable : Json → Json
  | float x => if x.isNaN || x.isInf then null else float x
  | arr items => arr (presentableItems items)
  | obj fields => obj (presentableFields fields)
  | j => j

/-- The same for items. -/
def presentableItems : List Json → List Json
  | [] => []
  | v :: vs => v.presentable :: presentableItems vs

/-- The same for fields. -/
def presentableFields : List (Text × Json) → List (Text × Json)
  | [] => []
  | (name, v) :: rest => (Text.ofString name.shown, v.presentable) :: presentableFields rest

/-- The texts of a value in their order, without its names. -/
def texts : Json → List Text
  | str t => [t]
  | arr items => textsOfItems items
  | obj fields => textsOfFields fields
  | _ => []

/-- The same for items. -/
def textsOfItems : List Json → List Text
  | [] => []
  | v :: vs => v.texts ++ textsOfItems vs

/-- The same for fields. -/
def textsOfFields : List (Text × Json) → List Text
  | [] => []
  | (_, v) :: rest => v.texts ++ textsOfFields rest

end

/-- The document of a value, unless one of its texts cannot be encoded. -/
def document (j : Json) : Except EncodingFault Text :=
  match j.texts.findSome? Encoding.utf8.fault? with
  | some fault => .error fault
  | none => .ok (j.presentable.indented .document)

end Json
end ReleaseNotes
