/-
Directives in their surroundings.

A directive begins with an exclamation mark and holds no other one, so two directives of a message
never overlap.  What stands before the leftmost directive may begin like one, and other directives
and breaking markers may stand behind it: the kind that the message asks for stays the same.

Main statements:
* `Directive.IsWhole`, `Directive.Undirected` — a directive by itself, and messages without one;
* `Directive.IsWhole.mark` — a directive begins with its only exclamation mark;
* `Directive.stands_left` — no directive reaches over an exclamation mark;
* `Directive.isFirst_append` — a directive behind a text that has none is the leftmost one;
* `ReleaseKind.ofMessage_leftmost` — the kind that a message asks for.
-/
import ReleaseNotes.Proofs.Release.Directives

namespace ReleaseNotes

namespace Directive

/-- A text is a directive for a kind, with the kind spelled so, and nothing else. -/
def IsWhole (t : Text) (k : ReleaseKind) (spelling : Text) : Prop :=
  ∃ front blanks, t = front ++ (blanks ++ spelling) ∧ Spells opening front ∧
    (∀ u ∈ blanks, u.passes isBlank = true) ∧ Spells k.word.toList spelling

/-- No directive stands at any place of a message. -/
def Undirected (m : Text) : Prop := ∀ place k spelling, ¬ Stands (m.drop place) k spelling

theorem stands_iff {t : Text} {k : ReleaseKind} {spelling : Text} :
    Stands t k spelling ↔ ∃ whole rest, t = whole ++ rest ∧ IsWhole whole k spelling := by
  constructor
  · rintro ⟨front, blanks, rest, rfl, hfront, hblanks, hword⟩
    exact ⟨_, rest, by simp, front, blanks, rfl, hfront, hblanks, hword⟩
  · rintro ⟨whole, rest, rfl, front, blanks, rfl, hfront, hblanks, hword⟩
    exact ⟨front, blanks, rest, by simp, hfront, hblanks, hword⟩

/-! ### The mark of a directive -/

/-- A directive begins with an exclamation mark, and no other one follows. -/
theorem IsWhole.mark {t : Text} {k : ReleaseKind} {spelling : Text} (h : IsWhole t k spelling) :
    ∃ tail, t = .char '!' :: tail ∧ .char '!' ∉ tail := by
  obtain ⟨front, blanks, rfl, hfront, hblanks, hword⟩ := h
  obtain ⟨u, letters, hmark, hletters, rfl⟩ := List.forall₂_cons_left_iff.1 hfront
  have hnone : opening.tail.any (sameLetter · '!') = false := by decide
  have hkind : k.word.toList.any (sameLetter · '!') = false := by cases k <;> decide
  obtain rfl : u = .char '!' := eq_of_passes_sign (by decide) hmark
  have hspells : Spells opening.tail letters := hletters
  refine ⟨letters ++ (blanks ++ spelling), rfl, ?_⟩
  rw [List.mem_append, List.mem_append]
  rintro (hmem | hmem | hmem)
  · exact hspells.not_mem hnone hmem
  · exact absurd (hblanks _ hmem) (by decide)
  · exact hword.not_mem hkind hmem

/-- A directive that begins before an exclamation mark ends before it. -/
theorem stands_left {t rest : Text} {k : ReleaseKind} {spelling : Text} (ht : t ≠ [])
    (h : Stands (t ++ .char '!' :: rest) k spelling) : Stands t k spelling := by
  obtain ⟨whole, behind, heq, hwhole⟩ := stands_iff.1 h
  obtain ⟨tail, rfl, htail⟩ := hwhole.mark
  rcases List.append_eq_append_iff.1 heq with ⟨excess, hexcess, hrest⟩ | ⟨left, hleft, -⟩
  · cases excess with
    | nil => exact stands_iff.2 ⟨_, [], by simpa using hexcess.symm, hwhole⟩
    | cons u excess =>
      -- the mark would be one of the directive, and not the first
      obtain ⟨rfl, -⟩ := List.cons_eq_cons.1 hrest
      obtain ⟨v, t', rfl⟩ := List.exists_cons_of_ne_nil ht
      obtain ⟨-, hexcess⟩ := List.cons_eq_cons.1 hexcess
      exact absurd (hexcess ▸ List.mem_append_right _ List.mem_cons_self) htail
  · exact stands_iff.2 ⟨_, left, hleft, hwhole⟩

/-- A directive behind a text that has none is the leftmost one, whatever follows it. -/
theorem isFirst_append {before directive after : Text} {k : ReleaseKind} {spelling : Text}
    (hbefore : Undirected before) (h : IsWhole directive k spelling) :
    IsFirst (before ++ (directive ++ after)) k spelling := by
  refine ⟨before.length, ?_, ?_⟩
  · rw [List.drop_left]
    exact stands_iff.2 ⟨directive, after, rfl, h⟩
  · intro earlier hearlier k' spelling' hstands
    obtain ⟨tail, rfl, -⟩ := h.mark
    have hdrop : (before ++ (.char '!' :: tail ++ after)).drop earlier =
        before.drop earlier ++ .char '!' :: (tail ++ after) :=
      List.drop_append_of_le_length (Nat.le_of_lt hearlier)
    rw [hdrop] at hstands
    refine hbefore earlier k' spelling' (stands_left ?_ hstands)
    exact fun hnil => absurd (List.drop_eq_nil_iff.1 hnil) (Nat.not_le_of_lt hearlier)

end Directive

namespace ReleaseKind

open Directive

/-- What a message asks for.  If the leftmost of its directives is spelled in ASCII, that is the
kind of this directive, whatever stands before it that is none and whatever stands behind it.  If the
message has no directive, it is a major release exactly if one of the breaking markers occurs in it,
spelled so. -/
theorem ofMessage_leftmost (m : Text) :
    (∀ place k spelling, Stands (m.drop place) k spelling →
      (∀ earlier < place, ∀ k' spelling', ¬ Stands (m.drop earlier) k' spelling') →
      IsAscii spelling → ofMessage m = .ok (some k)) ∧
    (∀ before after k spelling, Undirected before → IsWhole m k spelling → IsAscii spelling →
      ofMessage (before ++ (m ++ after)) = .ok (some k)) ∧
    (Undirected m → ∃ k?, ofMessage m = .ok k? ∧
      (k? = some .major ↔ Text.ofString "!breaking" <:+: m ∨
        Text.ofString "BREAKING CHANGE:" <:+: m) ∧
      (k? = none ↔ ¬ Text.ofString "!breaking" <:+: m ∧
        ¬ Text.ofString "BREAKING CHANGE:" <:+: m)) := by
  refine ⟨?_, ?_, ?_⟩
  · intro place k spelling hstands hearlier hascii
    have hfirst : IsFirst m k spelling := ⟨place, hstands, hearlier⟩
    exact (ofMessage_outcomes m).1 k spelling hfirst hascii
  · intro before after k spelling hbefore hwhole hascii
    exact (ofMessage_outcomes _).1 k spelling (isFirst_append hbefore hwhole) hascii
  · intro hundirected
    obtain ⟨hmajor, hnone⟩ := (ofMessage_outcomes m).2.2 hundirected
    have hmarked : IsMarked m ↔ Text.ofString "!breaking" <:+: m ∨
        Text.ofString "BREAKING CHANGE:" <:+: m := by
      simp [IsMarked, breakingMarkers]
    rw [← not_or, ← hmarked]
    by_cases h : IsMarked m
    · exact ⟨some .major, hmajor h, by simp [h], by simp [h]⟩
    · exact ⟨none, hnone h, by simp [h], by simp [h]⟩

/-- Half of a directive and a breaking marker before a directive whose word stands on the next line,
and another directive behind it. -/
theorem ofMessage_leftmost_broken :
    let before := Text.ofString "BREAKING CHANGE: !release:\u2003 !RELEASE: "
    let directive := Text.ofString "!Relea\u017Fe:\nMINOR"
    let after := Text.ofString ", !breaking !release: major"
    Undirected before ∧ IsWhole directive .minor (Text.ofString "MINOR") ∧
      IsAscii (Text.ofString "MINOR") ∧ ofMessage (before ++ (directive ++ after)) =
        .ok (some .minor) := by
  intro before directive after
  have hbefore : Undirected before := firstWord?_eq_none_iff.1 (by decide +kernel)
  have hopening : Spells opening (Text.ofString "!Relea\u017Fe:") :=
    (afterWord?_eq_some_iff.1 (by decide +kernel :
      afterWord? opening "!Relea\u017Fe:" = some (Text.ofString "!Relea\u017Fe:", []))).1
  have hword : Spells ReleaseKind.minor.word.toList (Text.ofString "MINOR") :=
    (afterWord?_eq_some_iff.1 (by decide +kernel :
      afterWord? ReleaseKind.minor.word.toList "MINOR" = some (Text.ofString "MINOR", []))).1
  have hwhole : IsWhole directive .minor (Text.ofString "MINOR") :=
    ⟨_, Text.ofString "\n", by decide +kernel, hopening, by decide, hword⟩
  have hascii : IsAscii (Text.ofString "MINOR") := by decide
  exact ⟨hbefore, hwhole, hascii,
    (ofMessage_leftmost directive).2.1 before after .minor _ hbefore hwhole hascii⟩

end ReleaseKind
end ReleaseNotes
