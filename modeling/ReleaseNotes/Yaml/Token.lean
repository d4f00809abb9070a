/-
Tokens of YAML.

Main statements:
* `Yaml.Token` — the tokens;
* `Yaml.Tokens` — those of a text, and what it is refused for behind them;
* `Yaml.Cursor.anchorName`, `Yaml.Cursor.tag`, `Yaml.Cursor.directive` — names, tags and directives,
  taken off the text.
-/
import ReleaseNotes.Yaml.Cursor

namespace ReleaseNotes
namespace Yaml

/-- The tokens. -/
inductive Token where
  | streamEnd
  | version (major : Nat)
  | handle (name tagStart : String)
  | reserved
  | documentStart
  | documentEnd
  | blockSequenceStart
  | blockMappingStart
  | blockEnd
  | flowSequenceStart
  | flowSequenceEnd
  | flowMappingStart
  | flowMappingEnd
  | blockEntry
  | flowEntry
  | key
  | value
  | alias (name : String)
  | anchor (name : String)
  | tag (handle : Option String) (suffix : String)
  | scalar (text : Text) (plain : Bool)
  deriving DecidableEq, Repr

/-- The tokens of a text.  If it is refused, they are those that are known when that turns out. -/
structure Tokens where
  tokens : List Token
  fault : Option Fault := none

namespace Cursor

/-- What may follow the name of an anchor. -/
def endsAnchor (c : Char) : Bool :=
  isBlankOrEnd c || ['?', ':', ',', ']', '\x7d', '%', '@', '\x60'].contains c

/-- The name of an anchor or an alias, behind its mark. -/
def anchorName (c : Cursor) : Except Fault (String × Cursor) :=
  let c := c.next
  let name := c.takeWhile isNameChar
  let behind := c.advance name.length
  if name.isEmpty || !endsAnchor behind.peek then .error .malformed
  else .ok (String.ofList name, behind)

/-- Whether a character may stand in the address of a tag. -/
def isTagChar (c : Char) : Bool :=
  c.isAlphanum || "-;/?:@&=+$,_.!~*'()[]%".toList.contains c

/-- The value of a hexadecimal digit. -/
def hex? (c : Char) : Option Nat := Json.Reader.hexValue? c

/-- The bytes that percent signs with two digits stand for, and what follows them. -/
def escapedBytes : List Char → Option (List UInt8 × List Char)
  | '%' :: a :: b :: rest => do
    let x ← hex? a
    let y ← hex? b
    let (bytes, behind) ← escapedBytes rest
    return (UInt8.ofNat (16 * x + y) :: bytes, behind)
  | '%' :: _ => none
  | cs => some ([], cs)

/-- The text that bytes encode. -/
def textOfBytes? (bytes : List UInt8) : Option (List Char) :=
  (String.fromUTF8? ⟨bytes.toArray⟩).map String.toList

/-- The address of a tag with its percent signs resolved. -/
def unescaped : Nat → List Char → Option (List Char)
  | 0, _ => some []
  | _, [] => some []
  | fuel + 1, c :: cs =>
    if c = '%' then do
      let (bytes, rest) ← escapedBytes (c :: cs)
      let head ← textOfBytes? bytes
      let tail ← unescaped fuel rest
      return head ++ tail
    else (unescaped fuel cs).map (c :: ·)

/-- The address of a tag. -/
def tagAddress (c : Cursor) : Except Fault (String × Cursor) :=
  let written := c.takeWhile isTagChar
  if written.isEmpty then .error .malformed
  else match unescaped written.length written with
    | some cs => .ok (String.ofList cs, c.advance written.length)
    | none => .error .malformed

/-- The handle of a tag, with its marks. -/
def tagHandle (c : Cursor) : Except Fault (String × Cursor) :=
  if c.peek != '!' then .error .malformed
  else if c.peekAt 1 == ' ' then .ok ("!", c.next)
  else
    let name := c.next.takeWhile isNameChar
    if c.peekAt (name.length + 1) == '!' then
      .ok (String.ofList ('!' :: name ++ ['!']), c.advance (name.length + 2))
    else .error .malformed

/-- A tag. -/
def tag (c : Cursor) : Except Fault (Token × Cursor) := do
  if c.peekAt 1 == '<' then
    let (suffix, behind) ← (c.advance 2).tagAddress
    if behind.peek != '>' then .error .malformed
    else finish none suffix behind.next
  else if isBlankOrEnd (c.peekAt 1) then finish none "!" c.next
  else
    let word := c.next.takeWhile fun ch => !isSpaceOrEnd ch
    if word.contains '!' then
      let (handle, behind) ← c.tagHandle
      let (suffix, behind) ← behind.tagAddress
      finish (some handle) suffix behind
    else
      let (suffix, behind) ← c.next.tagAddress
      finish (some "!") suffix behind
where
  /-- A tag, which must end here. -/
  finish (handle : Option String) (suffix : String) (behind : Cursor) :
      Except Fault (Token × Cursor) :=
    if isSpaceOrEnd behind.peek then .ok (.tag handle suffix, behind) else .error .malformed

/-- A number of a version. -/
def versionNumber (c : Cursor) : Except Fault (Nat × Cursor) :=
  let ds := c.takeWhile Char.isDigit
  if ds.isEmpty then .error .malformed
  else if Numeral.maxDigits < ds.length then
    .error (.unbuildable (.numeral (.reading ds.length)))
  else .ok (Numeral.value ds, c.advance ds.length)

/-- The version of a directive. -/
def versionDirective (c : Cursor) : Except Fault (Token × Cursor) := do
  let (major, behind) ← c.skipSpaces.versionNumber
  if behind.peek != '.' then .error .malformed
  else
    let (_, behind) ← behind.next.versionNumber
    if isSpaceOrEnd behind.peek then .ok (.version major, behind) else .error .malformed

/-- The handle of a directive and what it stands for. -/
def handleDirective (c : Cursor) : Except Fault (Token × Cursor) := do
  let (name, behind) ← c.skipSpaces.tagHandle
  if behind.peek != ' ' then .error .malformed
  else
    let (tagStart, behind) ← behind.skipSpaces.tagAddress
    if isSpaceOrEnd behind.peek then .ok (.handle name tagStart, behind) else .error .malformed

/-- A directive, with the rest of its line. -/
def directive (c : Cursor) : Except Fault (Token × Cursor) := do
  let c := c.next
  let name := c.takeWhile isNameChar
  let behind := c.advance name.length
  if name.isEmpty || !isSpaceOrEnd behind.peek then .error .malformed
  else
    let (token, behind) ← match String.ofList name with
      | "YAML" => behind.versionDirective
      | "TAG" => behind.handleDirective
      | _ => .ok (Token.reserved, behind.skipWhile fun ch => !isLineEnd ch)
    return (token, ← behind.endOfLine)

end Cursor
end Yaml
end ReleaseNotes
