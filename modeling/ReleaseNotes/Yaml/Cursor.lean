/-
A place in a YAML text.

The characters that remain, with the position of the next one.  Beyond the end of the text stands
the null character, which no text holds.

Main statements:
* `Yaml.Fault` — why a text is refused;
* `Yaml.Cursor` — the place;
* `Yaml.Cursor.advance` — the place so many characters further;
* `Yaml.Cursor.lineBreak` — a line break, taken off the text.
-/
import ReleaseNotes.Failure

namespace ReleaseNotes
namespace Yaml

/-- Why a text is refused: it is no YAML, or one of its values cannot be built. -/
inductive Fault where
  | malformed
  | unbuildable (failure : Failure)

/-- How many calls may stand inside each other. -/
def maxCalls : Nat := 970

/-- What is told of a text whose parts stand too deep in each other. -/
def tooDeep : Fault :=
  .unbuildable (.outside .recursion "maximum recursion depth exceeded")

/-- The null character stands for the end of the text. -/
def endMark : Char := '\x00'

/-- Whether a character breaks lines. -/
def isBreak (c : Char) : Bool :=
  c == '\n' || c == '\r' || c == '\x85' || c == '\u2028' || c == '\u2029'

/-- Whether the character is the end of the text or breaks lines. -/
def isLineEnd (c : Char) : Bool := c == endMark || isBreak c

/-- Whether the character ends a line or is a space. -/
def isSpaceOrEnd (c : Char) : Bool := c == ' ' || isLineEnd c

/-- Whether the character ends a line or is blank. -/
def isBlankOrEnd (c : Char) : Bool := c == '\t' || isSpaceOrEnd c

/-- Whether the character may stand in a text. -/
def isAllowed (c : Char) : Bool :=
  let n := c.toNat
  n == 9 || n == 10 || n == 13 || (0x20 ≤ n && n ≤ 0x7E) || n == 0x85 ||
    (0xA0 ≤ n && n ≤ 0xD7FF) || (0xE000 ≤ n && n ≤ 0xFFFD) || 0x10000 ≤ n

/-- Whether the character may stand in a name. -/
def isNameChar (c : Char) : Bool := c.isAlphanum || c == '-' || c == '_'

/-- A place in a text. -/
structure Cursor where
  rest : List Char
  index : Nat := 0
  line : Nat := 0
  column : Nat := 0

namespace Cursor

/-- The character so many places further. -/
def peekAt (c : Cursor) (k : Nat) : Char := c.rest.getD k endMark

/-- The next character. -/
def peek (c : Cursor) : Char := c.peekAt 0

/-- The place one character further. -/
def next (c : Cursor) : Cursor :=
  match c.rest with
  | [] => c
  | ch :: rest =>
    let ends := isBreak ch && !(ch == '\r' && rest.head? == some '\n')
    if ends then ⟨rest, c.index + 1, c.line + 1, 0⟩
    else ⟨rest, c.index + 1, c.line, if ch == '\uFEFF' then c.column else c.column + 1⟩

/-- The place so many characters further. -/
def advance (c : Cursor) : Nat → Cursor
  | 0 => c
  | k + 1 => c.next.advance k

/-- The characters up to the first that fails a test. -/
def takeWhile (c : Cursor) (test : Char → Bool) : List Char := c.rest.takeWhile test

/-- The place behind the characters that pass a test. -/
def skipWhile (c : Cursor) (test : Char → Bool) : Cursor := c.advance (c.takeWhile test).length

/-- The place behind spaces. -/
def skipSpaces (c : Cursor) : Cursor := c.skipWhile (· == ' ')

/-- The place at the end of a comment, if one begins here. -/
def skipComment (c : Cursor) : Cursor :=
  if c.peek == '#' then c.skipWhile fun ch => !isLineEnd ch else c

/-- A line break taken off the text: what stands for it, and the place behind it. -/
def lineBreak (c : Cursor) : List Char × Cursor :=
  if c.peek == '\r' && c.peekAt 1 == '\n' then (['\n'], c.advance 2)
  else if c.peek == '\u2028' || c.peek == '\u2029' then ([c.peek], c.next)
  else if isBreak c.peek then (['\n'], c.next)
  else ([], c)

/-- Whether a mark of three characters stands here on its own. -/
def isSeparator (c : Cursor) (mark : Char) : Bool :=
  c.peek == mark && c.peekAt 1 == mark && c.peekAt 2 == mark && isBlankOrEnd (c.peekAt 3)

/-- Whether a document begins or ends here. -/
def isDocumentMark (c : Cursor) : Bool := c.isSeparator '-' || c.isSeparator '.'

/-- The rest of a line on which nothing but a comment may follow. -/
def endOfLine (c : Cursor) : Except Fault Cursor :=
  let c := c.skipSpaces.skipComment
  if isLineEnd c.peek then .ok c.lineBreak.2 else .error .malformed

end Cursor
end Yaml
end ReleaseNotes
