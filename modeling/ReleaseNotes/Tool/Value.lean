/-
Values of tools.

What a tool returns, and how it is written for the model: a text stands for itself, any other value
is written as indented JSON.

Main statements:
* `ToolValue` — what a tool returns;
* `ToolValue.encode` — the text of it, unless it cannot be written.
-/
import ReleaseNotes.Failure

namespace ReleaseNotes

/-- What a tool returns. -/
inductive ToolValue where
  /-- A JSON value. -/
  | data (j : Json)
  /-- A value that is shown as JSON, with the texts of the parts that are none. -/
  | shown (j : Json)
  /-- A value that cannot be written. -/
  | unwritable (problem : Misuse)

namespace ToolValue

/-- The text of a JSON value. -/
def encodeJson (j : Json) : Except Failure Text :=
  if j.isWritable then .ok (j.indented .result) else .error (.numeral .writing)

/-- The text of a value. -/
def encode : ToolValue → Except Failure Text
  | data (.str t) => .ok t
  | data j => encodeJson j
  | shown j => encodeJson j
  | unwritable problem => .error (.misuse problem)

end ToolValue
end ReleaseNotes
