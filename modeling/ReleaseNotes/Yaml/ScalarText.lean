/-
Scalars of YAML.

Quoted scalars, block scalars and plain scalars, taken off the text.  Lines are folded: a single
line break counts as a space, more than one count as one less.

Main statements:
* `Yaml.Cursor.quotedScalar` — a scalar between quotation marks;
* `Yaml.Cursor.blockScalar` — a literal or folded scalar on lines of its own;
* `Yaml.Cursor.plainScalar` — a scalar without any mark.
-/
import ReleaseNotes.Yaml.Token

namespace ReleaseNotes
namespace Yaml
namespace Cursor

/-- What stands for a line break and the empty lines behind it. -/
def folded (first : List Char) (more : List Char) : List Char :=
  (if first != ['\n'] then first else if more.isEmpty then [' '] else []) ++ more

/-! ### Quoted scalars -/

/-- What a backslash and a character stand for. -/
def escapes : List (Char × Char) := [
  ('0', '\x00'), ('a', '\x07'), ('b', '\x08'), ('t', '\t'), ('\t', '\t'), ('n', '\n'),
  ('v', '\x0b'), ('f', '\x0c'), ('r', '\r'), ('e', '\x1b'), (' ', ' '), ('"', '"'),
  ('\\', '\\'), ('/', '/'), ('N', '\x85'), ('_', '\xa0'), ('L', '\u2028'), ('P', '\u2029')]

/-- How many digits follow a backslash and a character. -/
def escapeLengths : List (Char × Nat) := [('x', 2), ('u', 4), ('U', 8)]

/-- The number that hexadecimal digits stand for. -/
def hexNumber? (ds : List Char) : Option Nat :=
  ds.foldl (fun n d => do return 16 * (← n) + (← hex? d)) (some 0)

/-- The line breaks and blanks inside a quoted scalar. -/
def quotedBreaks : Nat → Cursor → Except Fault (List Char × Cursor)
  | 0, c => .ok ([], c)
  | fuel + 1, c =>
    if c.isDocumentMark then .error .malformed
    else
      let c := c.skipWhile fun ch => ch == ' ' || ch == '\t'
      if isBreak c.peek then do
        let (b, behind) := c.lineBreak
        let (more, behind) ← quotedBreaks fuel behind
        return (b ++ more, behind)
      else .ok ([], c)

/-- An escape in a scalar between double quotation marks. -/
def escape (c : Cursor) : Except Fault (Text × Cursor) :=
  let mark := c.peekAt 1
  match escapes.lookup mark with
  | some ch => .ok ([.char ch], c.advance 2)
  | none => match escapeLengths.lookup mark with
    | some width =>
      let ds := (c.advance 2).rest.take width
      match hexNumber? ds with
      | none => .error .malformed
      | some n =>
        if ds.length < width then .error .malformed
        else if 0x80000000 ≤ n then
          .error (.unbuildable (.outside (.other "OverflowError")
            (Text.ofString "Python int too large to convert to C int")))
        else if 0x110000 ≤ n then
          .error (.unbuildable (.outside .value
            (Text.ofString "chr() arg not in range(0x110000)")))
        else .ok ([Json.Reader.unitOfCode n], c.advance (2 + width))
    | none =>
      if isBreak mark then do
        let (_, behind) := c.next.lineBreak
        let (breaks, behind) ← quotedBreaks (behind.rest.length + 1) behind
        return (breaks.map .char, behind)
      else .error .malformed

/-- The blanks between the words of a quoted scalar. -/
def quotedSpaces (c : Cursor) : Except Fault (List Char × Cursor) :=
  let blanks := c.takeWhile fun ch => ch == ' ' || ch == '\t'
  let behind := c.advance blanks.length
  if behind.rest.isEmpty then .error .malformed
  else if isBreak behind.peek then do
    let (b, behind) := behind.lineBreak
    let (more, behind) ← quotedBreaks (behind.rest.length + 1) behind
    return (folded b more, behind)
  else .ok (blanks, behind)

/-- The rest of a scalar between quotation marks. -/
def quotedRest (quote : Char) : Nat → Cursor → Except Fault (Text × Cursor)
  | 0, _ => .error .malformed
  | fuel + 1, c => do
    let double := quote == '"'
    let ch := c.peek
    if c.rest.isEmpty then .error .malformed
    else if !double && ch == '\'' && c.peekAt 1 == '\'' then
      let (more, behind) ← quotedRest quote fuel (c.advance 2)
      return (.char '\'' :: more, behind)
    else if ch == quote then return ([], c.next)
    else if double && ch == '\\' then
      let (t, behind) ← c.escape
      let (more, behind) ← quotedRest quote fuel behind
      return (t ++ more, behind)
    else if ch == ' ' || ch == '\t' || isBreak ch then
      let (blanks, behind) ← c.quotedSpaces
      let (more, behind) ← quotedRest quote fuel behind
      return (blanks.map .char ++ more, behind)
    else
      let (more, behind) ← quotedRest quote fuel c.next
      return (.char ch :: more, behind)

/-- A scalar between quotation marks. -/
def quotedScalar (c : Cursor) : Except Fault (Text × Cursor) :=
  quotedRest c.peek (c.rest.length + 1) c.next

/-! ### Block scalars -/

/-- What becomes of the line breaks at the end of a block scalar. -/
inductive Chomping where
  | clip
  | strip
  | keep
  deriving DecidableEq, Repr

/-- The sign for the line breaks at the end, if there is one. -/
def chomping? (c : Cursor) : Option Chomping :=
  if c.peek == '+' then some .keep else if c.peek == '-' then some .strip else none

/-- The digit for the indentation, if there is one. -/
def increment? (c : Cursor) : Except Fault (Option Nat) :=
  if c.peek == '0' then .error .malformed
  else if c.peek.isDigit then .ok (some (c.peek.toNat - 48)) else .ok none

/-- The signs behind the mark of a block scalar. -/
def blockSigns (c : Cursor) : Except Fault (Chomping × Option Nat × Cursor) := do
  let (chomping, increment, behind) ← match c.chomping? with
    | some chomping => do
      let increment ← c.next.increment?
      pure (chomping, increment, if increment.isSome then c.advance 2 else c.next)
    | none => do
      match ← c.increment? with
      | some n =>
        pure (match c.next.chomping? with
          | some chomping => (chomping, some n, c.advance 2)
          | none => (.clip, some n, c.next))
      | none => pure (.clip, none, c)
  if isSpaceOrEnd behind.peek then return (chomping, increment, behind) else .error .malformed

/-- The empty lines before the first line of a block scalar, and the deepest indentation there. -/
def leadingBreaks : Nat → Nat → Cursor → List Char × Nat × Cursor
  | 0, deepest, c => ([], deepest, c)
  | fuel + 1, deepest, c =>
    if c.peek == ' ' then
      let c := c.next
      leadingBreaks fuel (max deepest c.column) c
    else if isBreak c.peek then
      let (b, behind) := c.lineBreak
      let (more, deepest, behind) := leadingBreaks fuel deepest behind
      (b ++ more, deepest, behind)
    else ([], deepest, c)

/-- The place behind spaces, up to a column. -/
def indentTo (indent : Nat) (c : Cursor) : Cursor :=
  c.advance (min (indent - c.column) (c.takeWhile (· == ' ')).length)

/-- The empty lines between two lines of a block scalar. -/
def blockBreaks (indent : Nat) : Nat → Cursor → List Char × Cursor
  | 0, c => ([], c)
  | fuel + 1, c =>
    let c := c.indentTo indent
    if isBreak c.peek then
      let (b, behind) := c.lineBreak
      let (more, behind) := blockBreaks indent fuel behind
      (b ++ more, behind)
    else ([], c)

/-- The lines of a block scalar, behind the empty lines before them. -/
def blockLines (folds : Bool) (chomping : Chomping) (indent : Nat) :
    Nat → List Char → List Char → Cursor → List Char × Cursor
  | 0, _, _, c => ([], c)
  | fuel + 1, before, lineEnd, c =>
    if c.column = indent ∧ !c.rest.isEmpty then
      let isIndented := fun ch => ch == ' ' || ch == '\t'
      let line := c.takeWhile fun ch => !isLineEnd ch
      let (b, behind) := (c.advance line.length).lineBreak
      let (breaks, behind) := blockBreaks indent (behind.rest.length + 1) behind
      if behind.column = indent ∧ !behind.rest.isEmpty then
        let joint :=
          if folds && b == ['\n'] && !isIndented c.peek && !isIndented behind.peek then
            (if breaks.isEmpty then [' '] else [])
          else b
        let (more, final) := blockLines folds chomping indent fuel breaks b behind
        (before ++ line ++ joint ++ more, final)
      else (before ++ line ++ finish b breaks, behind)
    else (finish lineEnd before, c)
where
  /-- The end of a block scalar: its last line break and the empty lines behind it. -/
  finish (lineEnd breaks : List Char) : List Char :=
    match chomping with
    | .strip => []
    | .clip => lineEnd
    | .keep => lineEnd ++ breaks

/-- A literal or folded scalar inside blocks of an indentation. -/
def blockScalar (c : Cursor) (indent : Int) : Except Fault (Text × Cursor) := do
  let folds := c.peek == '>'
  let (chomping, increment, behind) ← c.next.blockSigns
  let behind ← behind.endOfLine
  let least : Nat := max 1 (indent + 1).toNat
  let fuel := behind.rest.length + 1
  let (before, column, start) := match increment with
    | none =>
      let (breaks, deepest, start) := leadingBreaks fuel 0 behind
      (breaks, max least deepest, start)
    | some n =>
      let column := least + n - 1
      let (breaks, start) := blockBreaks column fuel behind
      (breaks, column, start)
  let (cs, final) := blockLines folds chomping column fuel before [] start
  return (cs.map .char, final)

/-! ### Plain scalars -/

/-- Whether a plain scalar ends at a character. -/
def endsPlain (inFlow : Bool) (ch following : Char) : Bool :=
  isBlankOrEnd ch ||
    (ch == ':' && (isBlankOrEnd following ||
      (inFlow && [',', '[', ']', '\x7b', '\x7d'].contains following))) ||
    (inFlow && [',', '?', '[', ']', '\x7b', '\x7d'].contains ch)

/-- A word of a plain scalar. -/
def plainWord (inFlow : Bool) : List Char → List Char
  | [] => []
  | ch :: rest =>
    if endsPlain inFlow ch (rest.headD endMark) then [] else ch :: plainWord inFlow rest

/-- The empty lines inside a plain scalar, unless a document begins or ends there. -/
def plainBreaks : Nat → Cursor → Option (List Char) × Cursor
  | 0, c => (some [], c)
  | fuel + 1, c =>
    if c.peek == ' ' then plainBreaks fuel c.next
    else if isBreak c.peek then
      let (b, behind) := c.lineBreak
      if behind.isDocumentMark then (none, behind)
      else
        let (more, behind) := plainBreaks fuel behind
        (more.map (b ++ ·), behind)
    else (some [], c)

/-- The blanks between the words of a plain scalar, the place behind them, and whether they break a
line. -/
def plainSpaces (c : Cursor) : List Char × Cursor × Bool :=
  let blanks := c.takeWhile (· == ' ')
  let behind := c.advance blanks.length
  if isBreak behind.peek then
    let (b, behind) := behind.lineBreak
    if behind.isDocumentMark then ([], behind, true)
    else
      let (more, behind) := plainBreaks (behind.rest.length + 1) behind
      match more with
      | none => ([], behind, true)
      | some more => (folded b more, behind, true)
  else (blanks, behind, false)

/-- The words of a plain scalar, behind the blanks before them, the place behind it, and whether it
ends with a line break. -/
def plainWords (inFlow : Bool) (indent : Int) :
    Nat → List Char → Bool → Cursor → List Char × Cursor × Bool
  | 0, _, broken, c => ([], c, broken)
  | fuel + 1, before, broken, c =>
    let word := if c.peek == '#' then [] else plainWord inFlow c.rest
    if word.isEmpty then ([], c, broken)
    else
      let (blanks, behind, breaks) := (c.advance word.length).plainSpaces
      if blanks.isEmpty || behind.peek == '#' || (!inFlow && (behind.column : Int) < indent) then
        (before ++ word, behind, breaks)
      else
        let (more, final, broken) := plainWords inFlow indent fuel blanks breaks behind
        (before ++ word ++ more, final, broken)

/-- A scalar without any mark inside blocks of an indentation, and whether it ends with a line
break. -/
def plainScalar (c : Cursor) (inFlow : Bool) (indent : Int) : Text × Cursor × Bool :=
  let (cs, behind, broken) := plainWords inFlow (indent + 1) (c.rest.length + 1) [] false c
  (cs.map .char, behind, broken)

end Cursor
end Yaml
end ReleaseNotes
