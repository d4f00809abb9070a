/-
JSON values in messages.

How a message shows a value: quoted texts, brackets and braces on one line, and the short names of
the floats that are no numbers.

Main statements:
* `Json.literal` — the text of a value inside a message;
* `Json.spoken` — the text of a value inside a message that quotes no texts.
-/
import ReleaseNotes.Json.Print

namespace ReleaseNotes
namespace Json

mutual

/-- The characters of a value inside a message. -/
def literalChars : Json → List Char
  | null => "None".toList
  | bool true => "True".toList
  | bool false => "False".toList
  | int n => (Numeral.printInt n).toList
  | float x => (DecimalLayout.display.print x).toList
  | str t => (Text.quoted t).toList
  | arr [] => ['[', ']']
  | arr (v :: vs) => '[' :: (literalChars v ++ literalItems vs) ++ [']']
  | obj [] => ['\x7b', '\x7d']
  | obj ((name, v) :: rest) =>
    '\x7b' :: ((Text.quoted name).toList ++ ':' :: ' ' :: literalChars v ++ literalFields rest) ++
      ['\x7d']

/-- The items after the first. -/
def literalItems : List Json → List Char
  | [] => []
  | v :: vs => ',' :: ' ' :: (literalChars v ++ literalItems vs)

/-- The fields after the first. -/
def literalFields : List (Text × Json) → List Char
  | [] => []
  | (name, v) :: rest =>
    ',' :: ' ' :: ((Text.quoted name).toList ++ ':' :: ' ' :: literalChars v ++ literalFields rest)

end

/-- The text of a value inside a message. -/
def literal (j : Json) : String := String.ofList (literalChars j)

/-- The text of a value inside a message that takes a text as it is. -/
def spoken : Json → Text
  | str t => t
  | j => j.literal

end Json
end ReleaseNotes
