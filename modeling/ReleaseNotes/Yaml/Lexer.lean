/-
The tokens of a YAML text.

Blocks are made of indentation: a deeper column opens one, a shallower column closes it.  A key
without a mark of its own is known only by the colon behind it, so the token that may begin such a
key is remembered until the colon comes or can no longer come.  No token is known before it is
settled whether it begins a key.

Main statements:
* `Yaml.PossibleKey` — a token that may turn out to begin a key;
* `Yaml.Lexer.step` — one more token;
* `Yaml.Lexer.settled` — the tokens that are known;
* `Yaml.tokens` — the tokens of a text.
-/
import ReleaseNotes.Yaml.ScalarText

namespace ReleaseNotes
namespace Yaml

/-- A token that may turn out to begin a key, and where it stands. -/
structure PossibleKey where
  /-- How many tokens stand before it. -/
  number : Nat
  /-- Whether it must turn out to begin a key. -/
  required : Bool
  start : Cursor

namespace PossibleKey

/-- The most characters that a key without a mark may have. -/
def maxLength : Nat := 1024

/-- Whether a colon at the place is too far away. -/
def isStale (key : PossibleKey) (c : Cursor) : Bool :=
  key.start.line != c.line || maxLength < c.index - key.start.index

end PossibleKey

/-- The reading of a text: the place reached, and the tokens read so far, the last one first. -/
structure Lexer where
  cursor : Cursor
  tokens : List Token := []
  /-- The token that may begin a key in the innermost brackets. -/
  key : Option PossibleKey := none
  /-- The tokens that may begin keys around those brackets, the innermost first. -/
  outerKeys : List (Option PossibleKey) := []
  /-- The column of the innermost block. -/
  indent : Int := -1
  /-- The columns of the blocks around it. -/
  outerIndents : List Int := []
  /-- Whether a key may begin at the next token. -/
  allowsKey : Bool := true

namespace Lexer

/-- Whether the place is inside brackets. -/
def inFlow (l : Lexer) : Bool := !l.outerKeys.isEmpty

/-- One more token. -/
def push (l : Lexer) (t : Token) : Lexer := { l with tokens := t :: l.tokens }

/-- A token put before those that stand from a number on. -/
def insert (l : Lexer) (number : Nat) (t : Token) : Lexer :=
  { l with tokens := l.tokens.insertIdx (l.tokens.length - number) t }

/-- The column of the place. -/
def column (l : Lexer) : Int := l.cursor.column

/-! ### Keys -/

/-- No token before the place may begin a key any more. -/
def dropKey (l : Lexer) : Except Fault Lexer :=
  match l.key with
  | some key => if key.required then .error .malformed else .ok { l with key := none }
  | none => .ok l

/-- The token at the place may begin a key. -/
def saveKey (l : Lexer) : Except Fault Lexer :=
  if l.allowsKey then do
    let required := !l.inFlow && l.indent == l.column
    let l ← l.dropKey
    return { l with key := some ⟨l.tokens.length, required, l.cursor⟩ }
  else .ok l

/-- A possible key that is still possible at the place. -/
def stillPossible (c : Cursor) : Option PossibleKey → Except Fault (Option PossibleKey)
  | none => .ok none
  | some key =>
    if !key.isStale c then .ok (some key)
    else if key.required then .error .malformed else .ok none

/-- The possible keys that are still possible at the place. -/
def dropStaleKeys (l : Lexer) : Except Fault Lexer := do
  let key ← stillPossible l.cursor l.key
  let outerKeys ← l.outerKeys.mapM (stillPossible l.cursor)
  return { l with key, outerKeys }

/-! ### Blocks -/

/-- The blocks that are deeper than a column, closed. -/
def closeBlocksTo (column : Int) : List Int → Lexer → Lexer
  | outer :: rest, l =>
    if column < l.indent then
      closeBlocksTo column rest { l.push .blockEnd with indent := outer, outerIndents := rest }
    else l
  | [], l => l

/-- The blocks that are deeper than a column, closed, unless the place is inside brackets. -/
def closeBlocks (l : Lexer) (column : Int) : Lexer :=
  if l.inFlow then l else closeBlocksTo column l.outerIndents l

/-- Whether a column opens a block. -/
def opensBlock (l : Lexer) (column : Int) : Bool := l.indent < column

/-- A block opened at a column. -/
def openBlock (l : Lexer) (column : Int) : Lexer :=
  { l with indent := column, outerIndents := l.indent :: l.outerIndents }

/-! ### The kinds of token -/

/-- A mark of so many characters. -/
def mark (l : Lexer) (length : Nat) (t : Token) : Lexer :=
  { l.push t with cursor := l.cursor.advance length }

/-- All blocks closed, where a document begins or ends. -/
def leaveDocument (l : Lexer) : Except Fault Lexer := do
  let l ← (l.closeBlocks (-1)).dropKey
  return { l with allowsKey := false }

/-- A token that ends at a place. -/
def take (l : Lexer) (taken : Except Fault (Token × Cursor)) : Except Fault Lexer := do
  let (t, cursor) ← taken
  return { l.push t with cursor }

/-- A token that may begin a key, and after which none may begin. -/
def takeKeyPart (l : Lexer) (taken : Except Fault (Token × Cursor)) : Except Fault Lexer := do
  let l ← l.saveKey
  { l with allowsKey := false }.take taken

/-- An opening bracket. -/
def openFlow (l : Lexer) (t : Token) : Except Fault Lexer := do
  let l ← l.saveKey
  return { l.mark 1 t with key := none, outerKeys := l.key :: l.outerKeys, allowsKey := true }

/-- A closing bracket, which needs an opening one. -/
def closeFlow (l : Lexer) (t : Token) : Except Fault Lexer := do
  let l ← l.dropKey
  match l.outerKeys with
  | [] => .error .malformed
  | key :: outerKeys => return { l.mark 1 t with key, outerKeys, allowsKey := false }

/-- A comma. -/
def flowEntry (l : Lexer) : Except Fault Lexer := do
  let l ← l.dropKey
  return { l.mark 1 .flowEntry with allowsKey := true }

/-- A block opened by a mark at the place, if the place is deeper than the block around it. -/
def openBlockHere (l : Lexer) (start : Token) : Except Fault Lexer :=
  if l.inFlow then .ok l
  else if !l.allowsKey then .error .malformed
  else if l.opensBlock l.column then .ok ((l.push start).openBlock l.column)
  else .ok l

/-- The dash before an item. -/
def blockEntry (l : Lexer) : Except Fault Lexer := do
  let l ← l.openBlockHere .blockSequenceStart
  let l ← l.dropKey
  return { l.mark 1 .blockEntry with allowsKey := true }

/-- The question mark before a key. -/
def keyMark (l : Lexer) : Except Fault Lexer := do
  let l ← l.openBlockHere .blockMappingStart
  let l ← l.dropKey
  return { l.mark 1 .key with allowsKey := !l.inFlow }

/-- The colon before a value. -/
def valueMark (l : Lexer) : Except Fault Lexer :=
  match l.key with
  | some key =>
    let l := { l.insert key.number .key with key := none, allowsKey := false }
    let l :=
      if !l.inFlow && l.opensBlock key.start.column then
        (l.insert key.number .blockMappingStart).openBlock key.start.column
      else l
    .ok (l.mark 1 .value)
  | none => do
    let l ← l.openBlockHere .blockMappingStart
    return { l.mark 1 .value with allowsKey := !l.inFlow }

/-- A literal or folded scalar. -/
def block (l : Lexer) : Except Fault Lexer := do
  let l ← { l with allowsKey := true }.dropKey
  let (text, cursor) ← l.cursor.blockScalar l.indent
  return { l.push (.scalar text false) with cursor }

/-- A scalar between quotation marks. -/
def quotedScalar (l : Lexer) : Except Fault Lexer :=
  l.takeKeyPart (l.cursor.quotedScalar.map fun (text, cursor) => (.scalar text false, cursor))

/-- A scalar without any mark. -/
def plainScalar (l : Lexer) : Except Fault Lexer := do
  let l ← l.saveKey
  let (text, cursor, broken) := l.cursor.plainScalar l.inFlow l.indent
  return { l.push (.scalar text true) with cursor, allowsKey := broken }

/-! ### All tokens -/

/-- The place of the next token, and whether it stands on a line of its own. -/
def skipBlanks : Nat → Cursor → Bool → Cursor × Bool
  | 0, c, broken => (c, broken)
  | fuel + 1, c, broken =>
    let c := c.skipSpaces.skipComment
    if isBreak c.peek then skipBlanks fuel c.lineBreak.2 true else (c, broken)

/-- The characters that no scalar without a mark begins with, unless more of it follows. -/
def indicators : List Char := "-?:,[]\x7b\x7d#&*!|>'\"%@\x60".toList

/-- Whether a scalar without a mark begins at the place. -/
def beginsPlain (l : Lexer) : Bool :=
  let ch := l.cursor.peek
  (!isBlankOrEnd ch && !indicators.contains ch) ||
    (!isBlankOrEnd (l.cursor.peekAt 1) && (ch == '-' || (!l.inFlow && (ch == '?' || ch == ':'))))

/-- The token that begins at the place. -/
def token (l : Lexer) : Except Fault Lexer :=
  let c := l.cursor
  let apart := isBlankOrEnd (c.peekAt 1)
  if c.rest.isEmpty then do return (← l.leaveDocument).push .streamEnd
  else if c.peek == '%' && c.column == 0 then do (← l.leaveDocument).take c.directive
  else if c.column == 0 && c.isSeparator '-' then do
    return (← l.leaveDocument).mark 3 .documentStart
  else if c.column == 0 && c.isSeparator '.' then do
    return (← l.leaveDocument).mark 3 .documentEnd
  else match c.peek with
    | '[' => l.openFlow .flowSequenceStart
    | '\x7b' => l.openFlow .flowMappingStart
    | ']' => l.closeFlow .flowSequenceEnd
    | '\x7d' => l.closeFlow .flowMappingEnd
    | ',' => l.flowEntry
    | '*' => l.takeKeyPart (c.anchorName.map fun (name, behind) => (.alias name, behind))
    | '&' => l.takeKeyPart (c.anchorName.map fun (name, behind) => (.anchor name, behind))
    | '!' => l.takeKeyPart c.tag
    | '\'' | '"' => l.quotedScalar
    | ch =>
      if ch == '-' && apart then l.blockEntry
      else if ch == '?' && (l.inFlow || apart) then l.keyMark
      else if ch == ':' && (l.inFlow || apart) then l.valueMark
      else if (ch == '|' || ch == '>') && !l.inFlow then l.block
      else if l.beginsPlain then l.plainScalar
      else .error .malformed

/-- One more token, and the blocks that end before it. -/
def step (l : Lexer) : Except Fault Lexer := do
  let start :=
    if l.cursor.index = 0 && l.cursor.peek == '\uFEFF' then l.cursor.next else l.cursor
  let (cursor, broken) := skipBlanks (start.rest.length + 1) start false
  let l := { l with cursor, allowsKey := l.allowsKey || (broken && !l.inFlow) }
  let l ← l.dropStaleKeys
  (l.closeBlocks l.column).token

/-- Whether the end of the text is reached. -/
def isDone (l : Lexer) : Bool := l.tokens.head? = some .streamEnd

/-- One more token, and no key that is no longer possible behind it. -/
def advance (l : Lexer) : Except Fault Lexer := do
  let l ← l.step
  if l.isDone then return l else l.dropStaleKeys

/-- The tokens before the first one that may begin a key. -/
def settled (l : Lexer) : List Token :=
  let keys := (l.key :: l.outerKeys).filterMap id
  l.tokens.reverse.take ((keys.map PossibleKey.number).foldl min l.tokens.length)

/-- The tokens of a text that is refused at the next token. -/
def refused (l : Lexer) (fault : Fault) : Tokens := ⟨l.settled, some fault⟩

/-- The tokens of a text of which one more was read, or not. -/
def continued (l : Lexer) (more : Lexer → Tokens) : Except Fault Lexer → Tokens
  | .error fault => l.refused fault
  | .ok next => if next.isDone then ⟨next.tokens.reverse, none⟩ else more next

/-- The tokens up to the end of the text, or up to where it is refused. -/
def run : Nat → Lexer → Tokens
  | 0, l => l.refused .malformed
  | fuel + 1, l => l.continued (run fuel) l.advance

end Lexer

/-- The tokens of a text. -/
def tokens (cs : List Char) : Tokens :=
  if cs.all isAllowed then Lexer.run (cs.length + 1) { cursor := { rest := cs } }
  else ⟨[], some .malformed⟩

end Yaml
end ReleaseNotes
