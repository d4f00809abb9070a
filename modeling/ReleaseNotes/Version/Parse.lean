/-
Reading versions.

A version text is, behind one optional `v`, three numerals joined by points, then an optional `-`
with the identifiers of a prerelease, then an optional `+` with the identifiers of a build.  A
numeral, and a prerelease identifier of digits only, does not begin with a zero that others follow.

Main statements:
* `Version.numeral`, `Version.prereleaseItem`, `Version.buildItem` — the parts of the expression;
* `Version.match?` — the parts of a text that the expression matches;
* `Version.parse` — the version of a text;
* `Version.read` — the version that any value stands for.
-/
import ReleaseNotes.Text.Pattern
import ReleaseNotes.Version.Basic

namespace ReleaseNotes
namespace Version

/-- Whether a character may stand in an identifier. -/
def isIdentifierChar (c : Char) : Bool := c.isAlphanum || c == '-'

/-! ### The expression -/

/-- Digits, or none. -/
def digits : Pattern := .many .nothing (·.passes Char.isDigit)

/-- A zero, or digits that do not begin with one. -/
def numeral : Pattern :=
  (Pattern.char '0').orElse
    ((Pattern.unit (·.passes fun c => c.isDigit && c != '0')).followedBy digits)

/-- Characters of an identifier, or none. -/
def identifierChars : Pattern := .many .nothing (·.passes isIdentifierChar)

/-- An identifier of a prerelease: a numeral, or characters that are not digits only. -/
def prereleaseItem : Pattern :=
  numeral.orElse (digits.followedBy
    ((Pattern.unit (·.passes fun c => c.isAlpha || c == '-')).followedBy identifierChars))

/-- An identifier of a build. -/
def buildItem : Pattern := (Pattern.unit (·.passes isIdentifierChar)).followedBy identifierChars

/-- Items joined by points. -/
def joined (item : Pattern) : Pattern :=
  item.followedBy ((Pattern.char '.').followedBy item).star

/-- Joined items behind a mark, or nothing. -/
def behindMark (mark : Char) (item : Pattern) : Pattern :=
  ((Pattern.char mark).followedBy (joined item)).optional

/-! ### The parts -/

/-- The parts of a version text. -/
structure Parts where
  major : List Char
  minor : List Char
  patch : List Char
  prerelease : List (List Char)
  build : List (List Char)
  deriving DecidableEq, Repr

/-- The characters between two places of a text. -/
def charsOf (start rest : Text) : List Char :=
  (Pattern.taken start rest).filterMap TextUnit.char?

/-- The items between two places of a text: those behind the mark, if one stands there. -/
def itemsOf (start rest : Text) : List (List Char) :=
  match charsOf start rest with
  | [] => []
  | _ :: cs => cs.splitOn '.'

/-- The parts of a text that the whole expression matches. -/
def match? (t : Text) : Option Parts :=
  ((Pattern.char 'v').optional t).findSome? fun t₁ =>
    (numeral t₁).findSome? fun r₁ => (Pattern.char '.' r₁).findSome? fun t₂ =>
      (numeral t₂).findSome? fun r₂ => (Pattern.char '.' r₂).findSome? fun t₃ =>
        (numeral t₃).findSome? fun r₃ => (behindMark '-' prereleaseItem r₃).findSome? fun t₄ =>
          (behindMark '+' buildItem t₄).findSome? fun rest =>
            if rest = [] then
              some ⟨charsOf t₁ r₁, charsOf t₂ r₂, charsOf t₃ r₃, itemsOf r₃ t₄, itemsOf t₄ rest⟩
            else none

/-- The number of a numeral, unless it is too long. -/
def number (cs : List Char) : Except NumeralLimit Nat :=
  if Numeral.maxDigits < cs.length then .error (.reading cs.length) else .ok (Numeral.value cs)

/-- The version with the given parts. -/
def ofParts (p : Parts) : Except NumeralLimit Version := do
  let major ← number p.major
  let minor ← number p.minor
  let patch ← number p.patch
  return ⟨major, minor, patch, p.prerelease.map String.ofList, p.build.map String.ofList⟩

/-- The version of a text. -/
def parse (t : Text) : Except Failure Version :=
  match match? t with
  | none => .error (.invalidVersion (.str t))
  | some parts => (ofParts parts).mapError .numeral

/-- The version that a value stands for. -/
def read : Json → Except Failure Version
  | .str t => parse t
  | given => .error (.invalidVersion given)

/-- Whether a value stands for a version. -/
def isValid (given : Json) : Except Failure Bool :=
  match read given with
  | .ok _ => .ok true
  | .error (.invalidVersion _) => .ok false
  | .error f => .error f

end Version
end ReleaseNotes
