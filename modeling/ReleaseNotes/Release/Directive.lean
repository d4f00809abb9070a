/-
Release directives.

A commit message asks for a release by a directive, `!release:` followed by blanks and a kind, or by
a breaking marker, which means a major release.  The leftmost directive wins over any marker.

Main statements:
* `Directive.blanks`, `Directive.kind` — the parts of a directive;
* `Directive.wordAt?` — the word of a directive that begins at a place;
* `Directive.firstWord?` — the word of the leftmost directive;
* `ReleaseKind.ofMessage` — the kind that a message asks for.
-/
import ReleaseNotes.Release.Kind
import ReleaseNotes.Text.Blank
import ReleaseNotes.Text.Pattern
import ReleaseNotes.Text.SmallLetter

namespace ReleaseNotes

namespace Directive

/-- What a directive begins with. -/
def opening : List Char := "!release:".toList

/-- What marks a breaking change. -/
def breakingMarkers : List Text := ["!breaking", "BREAKING CHANGE:"]

/-- What may stand between the opening and the word. -/
def blanks : Pattern := .many .nothing (·.passes isBlank)

/-- The words that a directive may have. -/
def kind : Pattern :=
  (Pattern.word "major".toList).orElse
    ((Pattern.word "minor".toList).orElse (Pattern.word "patch".toList))

/-- The word of a directive that begins with the text. -/
def wordAt? (t : Text) : Option Text :=
  (Pattern.word opening t).findSome? fun behind =>
    (blanks behind).findSome? fun start =>
      (kind start).head?.map fun rest => Pattern.taken start rest

/-- The word of the leftmost directive. -/
def firstWord? : Text → Option Text
  | [] => none
  | u :: t => match wordAt? (u :: t) with
    | some word => some word
    | none => firstWord? t

end Directive

/-- The kind of release that a message asks for. -/
def ReleaseKind.ofMessage (message : Text) : Except Failure (Option ReleaseKind) :=
  match Directive.firstWord? message with
  | some word => (ReleaseKind.read (.str word.lowered)).map some
  | none =>
    if Directive.breakingMarkers.any fun marker => occurs marker message then .ok (some .major)
    else .ok none

end ReleaseNotes
