/-
Tool calls.

A reply asks for tools by fenced blocks.  A block opens with three backticks and `json` at the end
of its line, and it is closed by the next three backticks if nothing but blanks follows them on
their line.  A block that holds no call is skipped.

Main statements:
* `Fence.firstLine`, `Fence.inside`, `Fence.closing` — the parts of a block;
* `Fence.block?` — the block at the front of a text;
* `Fence.bodies` — the bodies of all blocks of a text;
* `ToolCall` — a call, and how it is read from a value;
* `ToolCall.scan` — the calls of a text, up to the first block that cannot be decoded at all.
-/
import ReleaseNotes.Text.Pattern
import ReleaseNotes.Validation.Check

namespace ReleaseNotes

namespace Fence

/-- The mark that opens and closes a block. -/
def mark : List Char := ['\x60', '\x60', '\x60']

/-- What a block opens with. -/
def opening : List Char := mark ++ "json".toList

/-- Whether a character may follow a fence on its line. -/
def isFiller (c : Char) : Bool := c == ' ' || c == '\t'

/-- What may follow a fence on its line. -/
def fillers : Pattern := .many .nothing (·.passes isFiller)

/-- The end of a line. -/
def lineBreak : Pattern := (Pattern.char '\r').optional.followedBy (.char '\n')

/-- The first line of a block. -/
def firstLine : Pattern := (Pattern.word opening).followedBy (fillers.followedBy lineBreak)

/-- What a block may hold: units up to the next mark. -/
def inside : Pattern := .many (Pattern.word mark).absent fun _ => true

/-- What closes a block: a mark, if it ends its line. -/
def closing : Pattern :=
  (Pattern.word mark).followedBy (fillers.followedBy (lineBreak.orElse .atEnd)).ahead

/-- The body of the block at the front of a text, and the text behind the mark that closes it. -/
def block? (t : Text) : Option (Text × Text) :=
  (firstLine t).findSome? fun start =>
    (inside start).findSome? fun stop =>
      (closing stop).head?.map fun rest => (Pattern.taken start stop, rest)

/-- The bodies of the blocks of a text, when so many units at its front belong to the block before.
The search for the next block goes on where a block ends. -/
def bodiesFrom : Nat → Text → List Text
  | _, [] => []
  | n + 1, _ :: t => bodiesFrom n t
  | 0, u :: t => match block? (u :: t) with
    | some (body, rest) => body :: bodiesFrom (t.length - rest.length) t
    | none => bodiesFrom 0 t

/-- The bodies of all blocks of a text, in order. -/
def bodies (t : Text) : List Text := bodiesFrom 0 t

end Fence

/-- A tool that is asked for, with its arguments. -/
structure ToolCall where
  tool : String
  arguments : Json.Fields

namespace ToolCall

/-- The name of the model in reports. -/
def model : String := "ToolRequest"

/-- The arguments of a call; null stands for none. -/
def argumentsCheck : Check Json.Fields
  | .null => .ok []
  | j => Check.dictionary j

/-- A call read from a value. -/
def check : Check ToolCall := Check.object model fun fields =>
  ((Check.required fields "tool" (Check.stringOf 1)).map ToolCall.mk).ap
    (Check.optional fields "arguments" [] argumentsCheck)

/-- The fields of a call. -/
def toJson (c : ToolCall) : Json :=
  .record [("tool", .text c.tool), ("arguments", .obj c.arguments)]

/-- The call that a block holds, if it holds one. -/
def ofBody (body : Text) : Except Failure (Option ToolCall) :=
  match Json.decode body with
  | .ok j => .ok (check j).value?
  | .error (.malformed _ _ _ _) => .ok none
  | .error e => .error (.json e)

/-- The calls of some blocks, up to the first block that cannot be decoded at all. -/
def ofBodies : List Text → List ToolCall × Option Failure
  | [] => ([], none)
  | body :: rest =>
    match ofBody body with
    | .error f => ([], some f)
    | .ok none => ofBodies rest
    | .ok (some call) =>
      let (calls, stop) := ofBodies rest
      (call :: calls, stop)

/-- The calls of a text. -/
def scan (t : Text) : List ToolCall × Option Failure := ofBodies (Fence.bodies t)

/-- The calls of a text, unless one of its blocks cannot be decoded at all. -/
def all (t : Text) : Except Failure (List ToolCall) :=
  match scan t with
  | (calls, none) => .ok calls
  | (_, some f) => .error f

end ToolCall
end ReleaseNotes
