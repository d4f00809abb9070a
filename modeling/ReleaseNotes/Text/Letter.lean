/-
Letters without case.

Matching a word of lower-case ASCII letters against text without regard to case.  Two of the letters
have partners beyond ASCII: the dotless and the dotted capital `i`, and the long `s`.

Main statements:
* `sameLetter` — whether a character is a form of a letter;
* `afterWord?` — what follows a word at the front of a text;
* `occurs` — whether a word occurs anywhere in a text.
-/
import ReleaseNotes.Text

namespace ReleaseNotes

/-- Whether a character is the lower-case letter, in any case. -/
def sameLetter (letter c : Char) : Bool :=
  c.toLower == letter || (letter == 'i' && (c == '\u0131' || c == '\u0130')) ||
    (letter == 's' && c == '\u017F')

/-- The units that spell the word at the front of the text without regard to case, and the units
behind them. -/
def afterWord? : List Char → Text → Option (Text × Text)
  | [], t => some ([], t)
  | _ :: _, [] => none
  | w :: ws, u :: t =>
    if u.passes (sameLetter w) then
      (afterWord? ws t).map fun (spelling, rest) => (u :: spelling, rest)
    else none

/-- Whether the word occurs in the text, in this very spelling. -/
def occurs (word : Text) : Text → Bool
  | [] => word.isEmpty
  | u :: t => word.isPrefixOf (u :: t) || occurs word t

theorem afterWord?_eq_append {word : List Char} {t spelling rest : Text}
    (h : afterWord? word t = some (spelling, rest)) : t = spelling ++ rest := by
  induction word generalizing t spelling with
  | nil => cases h; rfl
  | cons w ws ih =>
    cases t with
    | nil => cases h
    | cons u t =>
      rw [afterWord?] at h
      split at h
      · obtain ⟨⟨s, r⟩, hsr, heq⟩ := Option.map_eq_some_iff.1 h
        cases heq
        simp [ih hsr]
      · cases h

theorem afterWord?_cons_eq_some {w : Char} {ws : List Char} {t spelling rest : Text}
    (h : afterWord? (w :: ws) t = some (spelling, rest)) :
    ∃ u t' spelling', t = u :: t' ∧ u.passes (sameLetter w) = true ∧
      afterWord? ws t' = some (spelling', rest) := by
  cases t with
  | nil => cases h
  | cons u t =>
    rw [afterWord?] at h
    split at h
    · next hu =>
      obtain ⟨⟨spelling', rest'⟩, hrest, heq⟩ := Option.map_eq_some_iff.1 h
      cases heq
      exact ⟨u, t, spelling', rfl, hu, hrest⟩
    · cases h

theorem occurs_iff {word t : Text} : occurs word t = true ↔ word <:+: t := by
  induction t with
  | nil => simp [occurs]
  | cons u t ih => simp [occurs, ih, List.infix_cons_iff]

end ReleaseNotes
