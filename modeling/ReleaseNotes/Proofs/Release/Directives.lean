/-
Directives in messages.

A directive is spelled in any case, so by more characters than the small letters of its word: two of
the letters have partners beyond ASCII.  The search finds the leftmost directive of a message however
it is spelled, but the word that it found is a kind only if it is spelled in ASCII; a message whose
leftmost directive is spelled otherwise asks for nothing and makes the search fail.

Main statements:
* `Directive.Spells`, `Directive.Stands`, `Directive.IsFirst` — spellings, directives, and the
  leftmost directive of a message;
* `Directive.wordAt?_eq_some_iff` — the patterns match exactly the directives;
* `Directive.firstWord?_eq_some_iff`, `Directive.firstWord?_eq_none_iff` — what the search finds;
* `Directive.lowered_of_spells`, `Directive.ofWord?_lowered` — the small letters of a spelling;
* `Directive.IsForeign` — a leftmost directive that is not spelled in ASCII;
* `ReleaseKind.ofMessage_outcomes`, `ReleaseKind.ofMessage_fails_iff` — what a message asks for.
-/
import Mathlib.Data.List.Forall2
import Mathlib.Data.List.TakeWhile
import Mathlib.Tactic.Common
import ReleaseNotes.Proofs.Text.Matching
import ReleaseNotes.Release.Directive

namespace ReleaseNotes

/-! ### Letters -/

theorem toLower_cases (c : Char) :
    c.toLower = c ∨ (65 ≤ c.toNat ∧ c.toNat ≤ 90 ∧ c.toLower.toNat = c.toNat + 32) := by
  unfold Char.toLower
  split
  · next hupper =>
    obtain ⟨hfrom, hto⟩ := hupper
    have hfrom : 65 ≤ c.val.toNat := hfrom
    have hto : c.val.toNat ≤ 90 := hto
    refine .inr ⟨hfrom, hto, ?_⟩
    show (c.val.toNat + 32) % 4294967296 = c.val.toNat + 32
    omega
  · exact .inl rfl

/-- The characters beyond ASCII that are a form of an ASCII letter. -/
def isPartner (c : Char) : Bool := c == '\u0131' || c == '\u0130' || c == '\u017F'

theorem isPartner_iff {c : Char} :
    isPartner c = true ↔ c = '\u0131' ∨ c = '\u0130' ∨ c = '\u017F' := by
  simp [isPartner, or_assoc]

theorem sameLetter_cases {w c : Char} (h : sameLetter w c = true) :
    c.toLower = w ∨ (w = 'i' ∧ (c = '\u0131' ∨ c = '\u0130')) ∨ (w = 's' ∧ c = '\u017F') := by
  simpa [sameLetter, or_assoc] using h

theorem isPartner_of_cases {w c : Char}
    (h : (w = 'i' ∧ (c = '\u0131' ∨ c = '\u0130')) ∨ (w = 's' ∧ c = '\u017F')) :
    isPartner c = true := by
  rcases h with ⟨-, rfl | rfl⟩ | ⟨-, rfl⟩ <;> rfl

theorem not_lt_of_isPartner {c : Char} (h : isPartner c = true) : ¬ c.toNat < 0x80 := by
  rcases isPartner_iff.1 h with rfl | rfl | rfl <;> decide

/-- An ASCII form of a letter is the letter or its capital. -/
theorem toLower_of_sameLetter {w c : Char} (h : sameLetter w c = true) (hc : c.toNat < 0x80) :
    c.toLower = w := by
  rcases sameLetter_cases h with h | h
  · exact h
  · exact absurd hc (not_lt_of_isPartner (isPartner_of_cases h))

/-- Any other form of an ASCII letter is one of its partners. -/
theorem isPartner_of_sameLetter {w c : Char} (h : sameLetter w c = true) (hw : w.toNat < 0x80)
    (hc : ¬ c.toNat < 0x80) : isPartner c = true := by
  rcases sameLetter_cases h with h | h
  · rcases toLower_cases c with hsame | ⟨-, hto, -⟩
    · rw [hsame] at h
      exact absurd (h ▸ hw) hc
    · omega
  · exact isPartner_of_cases h

/-- A sign that is no small letter is spelled by itself alone. -/
theorem eq_of_passes_sign {w : Char} {u : TextUnit} (hw : ¬ (97 ≤ w.toNat ∧ w.toNat ≤ 122))
    (h : u.passes (sameLetter w) = true) : u = .char w := by
  cases u with
  | half _ | byte _ => cases h
  | char c =>
    rcases sameLetter_cases h with h | ⟨rfl, -⟩ | ⟨rfl, -⟩
    · rcases toLower_cases c with hsame | ⟨hfrom, hto, hlower⟩
      · rw [← hsame, h]
      · -- a capital letter would make the sign a small one
        rw [h] at hlower
        omega
    · exact absurd (by decide) hw
    · exact absurd (by decide) hw

theorem isBlank_of_letter {c : Char} (hfrom : 65 ≤ c.toNat) (hto : c.toNat ≤ 122) :
    isBlank c = false := by
  simp only [isBlank, Bool.or_eq_false_iff, Bool.and_eq_false_iff, decide_eq_false_iff_not,
    beq_eq_false_iff_ne]
  omega

/-- No form of a letter is a blank. -/
theorem isBlank_of_sameLetter {w c : Char} (h : sameLetter w c = true) (hw : isBlank w = false) :
    isBlank c = false := by
  rcases sameLetter_cases h with h | h
  · rcases toLower_cases c with hsame | ⟨hfrom, hto, -⟩
    · rw [← hsame, h]
      exact hw
    · exact isBlank_of_letter hfrom (by omega)
  · rcases isPartner_iff.1 (isPartner_of_cases h) with rfl | rfl | rfl <;> rfl

namespace Directive

/-! ### Spellings -/

/-- A text spells a word of small letters, in any case. -/
def Spells (word : List Char) (t : Text) : Prop :=
  List.Forall₂ (fun w (u : TextUnit) => u.passes (sameLetter w) = true) word t

theorem afterWord?_eq_some_iff {word : List Char} {t spelling rest : Text} :
    afterWord? word t = some (spelling, rest) ↔ Spells word spelling ∧ t = spelling ++ rest := by
  induction word generalizing t spelling with
  | nil =>
    constructor
    · rintro ⟨⟩
      exact ⟨.nil, rfl⟩
    · rintro ⟨hspells, rfl⟩
      cases hspells
      rfl
  | cons w ws ih =>
    constructor
    · intro h
      refine ⟨?_, afterWord?_eq_append h⟩
      obtain ⟨u, t', spelling', rfl, hu, hrest⟩ := afterWord?_cons_eq_some h
      rw [afterWord?, if_pos hu, hrest] at h
      cases h
      exact .cons hu (ih.1 hrest).1
    · rintro ⟨hspells, rfl⟩
      obtain ⟨u, spelling', hu, hspells', rfl⟩ := List.forall₂_cons_left_iff.1 hspells
      rw [List.cons_append, afterWord?, if_pos hu, ih.2 ⟨hspells', rfl⟩]
      rfl

theorem Spells.exists_letter {word : List Char} {t : Text} (h : Spells word t) {u : TextUnit}
    (hu : u ∈ t) : ∃ w ∈ word, u.passes (sameLetter w) = true := by
  induction h with
  | nil => cases hu
  | @cons w v ws t hv _ ih =>
    rcases List.mem_cons.1 hu with rfl | hu
    · exact ⟨w, List.mem_cons_self, hv⟩
    · obtain ⟨w', hw', hsame⟩ := ih hu
      exact ⟨w', List.mem_cons_of_mem _ hw', hsame⟩

theorem Spells.not_mem {word : List Char} {t : Text} (h : Spells word t) {c : Char}
    (hword : word.any (sameLetter · c) = false) : .char c ∉ t := by
  intro hc
  obtain ⟨w, hw, hsame⟩ := h.exists_letter hc
  exact List.any_eq_false.1 hword w hw hsame

/-- A directive for a kind stands at the front of a text, with the kind spelled so. -/
def Stands (t : Text) (k : ReleaseKind) (spelling : Text) : Prop :=
  ∃ front blanks rest, t = front ++ (blanks ++ (spelling ++ rest)) ∧ Spells opening front ∧
    (∀ u ∈ blanks, u.passes isBlank = true) ∧ Spells k.word.toList spelling

/-- The words of the kinds are made of small letters. -/
theorem letter_of_word {k : ReleaseKind} {w : Char} (hw : w ∈ k.word.toList) :
    97 ≤ w.toNat ∧ w.toNat ≤ 122 := by
  have hall : (k.word.toList.all fun w => 97 ≤ w.toNat && w.toNat ≤ 122) = true := by
    cases k <;> rfl
  simpa using List.all_eq_true.1 hall w hw

theorem length_of_spells {k : ReleaseKind} {spelling : Text} (h : Spells k.word.toList spelling) :
    spelling.length = 5 := by
  have hlength : k.word.toList.length = spelling.length := h.length_eq
  rw [← hlength]
  cases k <;> rfl

theorem matches_word (word : List Char) : (Pattern.word word).Matches (Spells word) := by
  intro t rest
  simp only [Pattern.mem_word, afterWord?_eq_some_iff]

theorem matches_blanks : blanks.Matches fun s => ∀ u ∈ s, u.passes isBlank = true :=
  Pattern.matches_units

theorem matches_kind : kind.Matches fun s => ∃ k : ReleaseKind, Spells k.word.toList s := by
  refine ((matches_word _).orElse ((matches_word _).orElse (matches_word _))).congr fun s => ?_
  constructor
  · rintro (h | h | h)
    · exact ⟨.major, h⟩
    · exact ⟨.minor, h⟩
    · exact ⟨.patch, h⟩
  · rintro ⟨k, h⟩
    cases k with
    | major => exact .inl h
    | minor => exact .inr (.inl h)
    | patch => exact .inr (.inr h)

theorem not_isBlank_of_spells {k : ReleaseKind} {u : TextUnit} {spelling : Text}
    (h : Spells k.word.toList (u :: spelling)) : u.passes isBlank = false := by
  have hletters : ∀ w ∈ k.word.toList, isBlank w = false := by
    intro w hw
    obtain ⟨hfrom, hto⟩ := letter_of_word hw
    exact isBlank_of_letter (by omega) hto
  obtain ⟨w, ws, hu, -, hword⟩ := List.forall₂_cons_right_iff.1 h
  have hw : isBlank w = false := hletters w (hword ▸ List.mem_cons_self)
  cases u with
  | half _ | byte _ => cases hu
  | char c => exact isBlank_of_sameLetter hu hw

/-- Units that pass a test, up to one that does not, are told by the text that they begin. -/
theorem eq_of_passing {test : TextUnit → Bool} {a a' b b' : Text} (ha : ∀ u ∈ a, test u = true)
    (ha' : ∀ u ∈ a', test u = true) (hb : ∀ u ∈ b.head?, test u = false)
    (hb' : ∀ u ∈ b'.head?, test u = false) (h : a ++ b = a' ++ b') : a = a' ∧ b = b' := by
  have htake : ∀ {s r : Text}, (∀ u ∈ s, test u = true) → (∀ u ∈ r.head?, test u = false) →
      (s ++ r).takeWhile test = s := by
    intro s r hs hr
    rw [List.takeWhile_append_of_pos hs]
    cases r with
    | nil => simp
    | cons u r => rw [List.takeWhile_cons_of_neg (by simp [hr u rfl]), List.append_nil]
  have hfront : a = a' := by rw [← htake ha hb, h, htake ha' hb']
  rw [hfront] at h
  exact ⟨hfront, List.append_cancel_left h⟩

theorem head_not_isBlank_of_spells {k : ReleaseKind} {spelling : Text}
    (h : Spells k.word.toList spelling) (rest : Text) :
    ∀ u ∈ (spelling ++ rest).head?, u.passes isBlank = false := by
  obtain ⟨u, letters, rfl⟩ := List.exists_cons_of_length_pos
    (Nat.lt_of_lt_of_eq (by decide) (length_of_spells h).symm : 0 < spelling.length)
  rintro v ⟨⟩
  exact not_isBlank_of_spells h

/-- One directive at most stands at the front of a text, spelled in one way. -/
theorem Stands.spelling_eq {t s s' : Text} {k k' : ReleaseKind} (h : Stands t k s)
    (h' : Stands t k' s') : s = s' := by
  obtain ⟨front, blanks, rest, rfl, hfront, hblanks, hword⟩ := h
  obtain ⟨front', blanks', rest', heq, hfront', hblanks', hword'⟩ := h'
  have hlength : front.length = front'.length := hfront.length_eq.symm.trans hfront'.length_eq
  have hbehind := (List.append_inj heq hlength).2
  have hwords := (eq_of_passing hblanks hblanks' (head_not_isBlank_of_spells hword rest)
    (head_not_isBlank_of_spells hword' rest') hbehind).2
  -- the words are of one length, so the text begins with one spelling only
  exact (List.append_inj hwords
    ((length_of_spells hword).trans (length_of_spells hword').symm)).1

theorem stands_of_wordAt? {t spelling : Text} (h : wordAt? t = some spelling) :
    ∃ k, Stands t k spelling := by
  obtain ⟨behind, hbehind, h⟩ := List.exists_of_findSome?_eq_some h
  obtain ⟨start, hstart, h⟩ := List.exists_of_findSome?_eq_some h
  obtain ⟨rest, hrest, heq⟩ := Option.map_eq_some_iff.1 h
  obtain ⟨front, hfront, rfl⟩ := (matches_word opening t behind).1 hbehind
  obtain ⟨blanks, hblanks, rfl⟩ := (matches_blanks behind start).1 hstart
  obtain ⟨word, ⟨k, hword⟩, rfl⟩ := (matches_kind start rest).1 (List.mem_of_head? hrest)
  rw [Pattern.taken_append] at heq
  cases heq
  exact ⟨k, front, blanks, rest, rfl, hfront, hblanks, hword⟩

theorem Stands.wordAt?_isSome {t spelling : Text} {k : ReleaseKind} (h : Stands t k spelling) :
    (wordAt? t).isSome = true := by
  obtain ⟨front, blanks, rest, rfl, hfront, hblanks, hword⟩ := h
  rw [wordAt?, List.isSome_findSome?, List.any_eq_true]
  refine ⟨_, (matches_word _ _ _).2 ⟨front, hfront, rfl⟩, ?_⟩
  rw [List.isSome_findSome?, List.any_eq_true]
  refine ⟨_, (matches_blanks _ _).2 ⟨blanks, hblanks, rfl⟩, ?_⟩
  rw [Option.isSome_map, List.isSome_head?]
  exact List.ne_nil_of_mem ((matches_kind _ _).2 ⟨spelling, ⟨k, hword⟩, rfl⟩)

/-- The patterns match exactly the directives. -/
theorem wordAt?_eq_some_iff {t spelling : Text} :
    wordAt? t = some spelling ↔ ∃ k, Stands t k spelling := by
  refine ⟨stands_of_wordAt?, ?_⟩
  rintro ⟨k, h⟩
  obtain ⟨spelling', hfound⟩ := Option.isSome_iff_exists.1 h.wordAt?_isSome
  obtain ⟨k', h'⟩ := stands_of_wordAt? hfound
  rw [hfound, h.spelling_eq h']

theorem wordAt?_eq_none_iff {t : Text} :
    wordAt? t = none ↔ ∀ k spelling, ¬ Stands t k spelling := by
  rw [← not_iff_not, ← ne_eq, Option.ne_none_iff_exists']
  simp only [wordAt?_eq_some_iff, not_forall, not_not]
  exact exists_comm

/-! ### The leftmost directive -/

/-- The leftmost directive of a message is one for this kind, spelled so. -/
def IsFirst (m : Text) (k : ReleaseKind) (spelling : Text) : Prop :=
  ∃ place, Stands (m.drop place) k spelling ∧
    ∀ earlier < place, ∀ k' spelling', ¬ Stands (m.drop earlier) k' spelling'

theorem not_stands_nil (k : ReleaseKind) (spelling : Text) : ¬ Stands [] k spelling := by
  intro h
  have hword := wordAt?_eq_some_iff.2 ⟨k, h⟩
  cases hword

theorem firstWord?_eq_none_iff {m : Text} :
    firstWord? m = none ↔ ∀ place k spelling, ¬ Stands (m.drop place) k spelling := by
  induction m with
  | nil => simp [firstWord?, not_stands_nil]
  | cons u t ih =>
    rw [firstWord?]
    cases hword : wordAt? (u :: t) with
    | some spelling =>
      obtain ⟨k, hstands⟩ := wordAt?_eq_some_iff.1 hword
      refine ⟨nofun, fun h => absurd hstands (h 0 k spelling)⟩
    | none =>
      dsimp only
      rw [ih]
      constructor
      · rintro h (_ | place)
        · exact wordAt?_eq_none_iff.1 hword
        · exact h place
      · exact fun h place => h (place + 1)

theorem firstWord?_eq_some_iff {m spelling : Text} :
    firstWord? m = some spelling ↔ ∃ k, IsFirst m k spelling := by
  induction m with
  | nil => simp [firstWord?, IsFirst, not_stands_nil]
  | cons u t ih =>
    rw [firstWord?]
    cases hword : wordAt? (u :: t) with
    | some spelling' =>
      obtain ⟨k', hstands'⟩ := wordAt?_eq_some_iff.1 hword
      constructor
      · rintro ⟨⟩
        exact ⟨k', 0, hstands', fun _ h => absurd h (Nat.not_lt_zero _)⟩
      · -- no directive is further left than one at the front
        rintro ⟨k, place, hstands, hfirst⟩
        rcases place with _ | place
        · exact hword.symm.trans (wordAt?_eq_some_iff.2 ⟨k, hstands⟩)
        · exact absurd hstands' (hfirst 0 (Nat.succ_pos _) k' spelling')
    | none =>
      have hfront := wordAt?_eq_none_iff.1 hword
      dsimp only
      rw [ih]
      refine exists_congr fun k => ⟨?_, ?_⟩
      · rintro ⟨place, hstands, hfirst⟩
        refine ⟨place + 1, hstands, ?_⟩
        rintro (_ | earlier) hearlier
        · exact hfront
        · exact hfirst earlier (Nat.lt_of_succ_lt_succ hearlier)
      · rintro ⟨_ | place, hstands, hfirst⟩
        · exact absurd hstands (hfront k spelling)
        · exact ⟨place, hstands, fun earlier h => hfirst (earlier + 1) (Nat.succ_lt_succ h)⟩

theorem IsFirst.spells {m spelling : Text} {k : ReleaseKind} (h : IsFirst m k spelling) :
    Spells k.word.toList spelling := by
  obtain ⟨place, ⟨front, blanks, rest, -, -, -, hspells⟩, -⟩ := h
  exact hspells

/-! ### Small letters -/

/-- All units of a text are ASCII characters. -/
def IsAscii (t : Text) : Prop := ∀ u ∈ t, u.passes (fun c => c.toNat < 0x80) = true

instance (t : Text) : Decidable (IsAscii t) := inferInstanceAs (Decidable (∀ u ∈ t, _))

theorem lowerBehind_char {before t : Text} {c : Char} (hc : c ≠ '\u03A3') :
    SmallLetter.lowerBehind before (.char c :: t) =
      Text.ofChars (smallsOf c) ++ SmallLetter.lowerBehind (.char c :: before) t := by
  rw [SmallLetter.lowerBehind]
  exact hc

/-- The small letters of a spelling in ASCII are the word. -/
theorem lowered_of_spells {word : List Char} {t : Text} (h : Spells word t) (hascii : IsAscii t) :
    t.lowered = Text.ofChars word := by
  suffices hbehind : ∀ before, SmallLetter.lowerBehind before t = Text.ofChars word from hbehind []
  induction h with
  | nil => exact fun _ => rfl
  | @cons w u ws t hu _ ih =>
    intro before
    cases u with
    | half _ | byte _ => cases hu
    | char c =>
      have hc : c.toNat < 0x80 := of_decide_eq_true (hascii _ List.mem_cons_self)
      have hsigma : c ≠ '\u03A3' := by
        rintro rfl
        exact absurd hc (by decide)
      rw [lowerBehind_char hsigma, smallsOf_of_lt hc, toLower_of_sameLetter hu hc,
        ih fun u hu => hascii u (List.mem_cons_of_mem _ hu)]
      rfl

theorem mem_lowerBehind {before t : Text} {c d : Char} (hc : .char c ∈ t) (hsigma : c ≠ '\u03A3')
    (hd : d ∈ smallsOf c) : .char d ∈ SmallLetter.lowerBehind before t := by
  induction t generalizing before with
  | nil => cases hc
  | cons u t ih =>
    rcases List.mem_cons.1 hc with rfl | hc
    · rw [lowerBehind_char hsigma]
      exact List.mem_append_left _ (List.mem_map_of_mem hd)
    · unfold SmallLetter.lowerBehind
      exact List.mem_append_right _ (ih hc)

/-- The small letters of a partner are not all ASCII. -/
theorem exists_small_of_isPartner {c : Char} (h : isPartner c = true) :
    c ≠ '\u03A3' ∧ ∃ d ∈ smallsOf c, ¬ d.toNat < 0x80 := by
  have hdotless : smallsOf '\u0131' = ['\u0131'] := by decide +kernel
  have hdotted : smallsOf '\u0130' = ['i', '\u0307'] := by decide +kernel
  have hlong : smallsOf '\u017F' = ['\u017F'] := by decide +kernel
  rcases isPartner_iff.1 h with rfl | rfl | rfl
  · exact ⟨by decide, '\u0131', hdotless ▸ List.mem_singleton_self _, by decide⟩
  · exact ⟨by decide, '\u0307', hdotted ▸ List.mem_cons_of_mem _ List.mem_cons_self, by decide⟩
  · exact ⟨by decide, '\u017F', hlong ▸ List.mem_singleton_self _, by decide⟩

theorem isAscii_letter {k : ReleaseKind} {w : Char} (hw : w ∈ k.word.toList) :
    w.toNat < 0x80 := by
  obtain ⟨-, hto⟩ := letter_of_word hw
  omega

theorem isAscii_word (k : ReleaseKind) : IsAscii (Text.ofString k.word) := by
  intro u hu
  obtain ⟨w, hw, rfl⟩ := List.mem_map.1 hu
  exact decide_eq_true (isAscii_letter hw)

/-- The small letters of any other spelling of a kind are not ASCII either. -/
theorem not_isAscii_lowered {k : ReleaseKind} {t : Text} (h : Spells k.word.toList t)
    (hascii : ¬ IsAscii t) : ¬ IsAscii t.lowered := by
  obtain ⟨u, hu, hforeign⟩ : ∃ u ∈ t, ¬ u.passes (fun c => c.toNat < 0x80) = true := by
    simpa [IsAscii] using hascii
  obtain ⟨w, hw, hsame⟩ := Spells.exists_letter h hu
  cases u with
  | half _ | byte _ => cases hsame
  | char c =>
    have hc : ¬ c.toNat < 0x80 := fun hc => hforeign (decide_eq_true hc)
    have hpartner := isPartner_of_sameLetter hsame (isAscii_letter hw) hc
    obtain ⟨hsigma, d, hd, hbig⟩ := exists_small_of_isPartner hpartner
    intro hlowered
    exact hbig (of_decide_eq_true (hlowered _ (mem_lowerBehind hu hsigma hd)))

/-- The kind that the small letters of a spelling stand for: the one that is spelled, if it is
spelled in ASCII, and none otherwise. -/
theorem ofWord?_lowered {k : ReleaseKind} {t : Text} (h : Spells k.word.toList t) :
    ReleaseKind.ofWord? t.lowered = if IsAscii t then some k else none := by
  by_cases hascii : IsAscii t
  · rw [if_pos hascii, lowered_of_spells h hascii]
    exact ReleaseKind.ofWord?_word k
  · rw [if_neg hascii]
    refine List.find?_eq_none.2 fun k' _ hword => not_isAscii_lowered h hascii ?_
    rw [eq_of_beq hword]
    exact isAscii_word k'

end Directive

/-! ### Messages -/

open Directive

/-- The leftmost directive of a message is spelled with characters that are not ASCII. -/
def Directive.IsForeign (m : Text) : Prop := ∃ k spelling, IsFirst m k spelling ∧ ¬ IsAscii spelling

/-- A message holds a breaking marker, spelled exactly so. -/
def Directive.IsMarked (m : Text) : Prop := ∃ marker ∈ breakingMarkers, marker <:+: m

namespace ReleaseKind

theorem ofMessage_of_isFirst {m spelling : Text} {k : ReleaseKind} (h : IsFirst m k spelling) :
    ofMessage m =
      if IsAscii spelling then .ok (some k) else .error (.notReleaseKind (.str spelling.lowered)) := by
  have hword : firstWord? m = some spelling := firstWord?_eq_some_iff.2 ⟨k, h⟩
  unfold ofMessage
  rw [hword]
  dsimp only [read]
  rw [ofWord?_lowered h.spells]
  split <;> rfl

/-- What a message asks for: the kind of its leftmost directive, if that is spelled in ASCII, and
nothing at all, with a failure, if it is spelled otherwise; without a directive a major release if it
holds a breaking marker, and none if it does not. -/
theorem ofMessage_outcomes (m : Text) :
    (∀ k spelling, IsFirst m k spelling → IsAscii spelling → ofMessage m = .ok (some k)) ∧
      (∀ k spelling, IsFirst m k spelling → ¬ IsAscii spelling →
        ofMessage m = .error (.notReleaseKind (.str spelling.lowered))) ∧
      ((∀ place k spelling, ¬ Stands (m.drop place) k spelling) →
        (IsMarked m → ofMessage m = .ok (some .major)) ∧ (¬ IsMarked m → ofMessage m = .ok none)) := by
  refine ⟨fun k spelling h hascii => ?_, fun k spelling h hascii => ?_, fun h => ?_⟩
  · rw [ofMessage_of_isFirst h, if_pos hascii]
  · rw [ofMessage_of_isFirst h, if_neg hascii]
  · have hmarked : (breakingMarkers.any fun marker => occurs marker m) = true ↔ IsMarked m := by
      simp only [List.any_eq_true, occurs_iff, IsMarked]
    unfold ofMessage
    rw [firstWord?_eq_none_iff.2 h, ← hmarked]
    exact ⟨fun hany => if_pos hany, fun hany => if_neg hany⟩

/-- A message asks for the kind that the word of its leftmost directive names. -/
theorem ofMessage_of_word {m w : Text} {k : ReleaseKind} (h : firstWord? m = some w)
    (hword : ReleaseKind.read (.str w.lowered) = .ok k) : ofMessage m = .ok (some k) := by
  rw [ofMessage, h]
  show (ReleaseKind.read (.str w.lowered)).map some = _
  rw [hword]
  rfl

theorem ofMessage_of_unmarked {m : Text} (h : firstWord? m = none)
    (hmarked : (breakingMarkers.any fun marker => occurs marker m) = false) :
    ofMessage m = .ok none := by
  rw [ofMessage, h]
  exact if_neg (by simp [hmarked])

/-- A message makes the search fail exactly if its leftmost directive is not spelled in ASCII, and
then its word is told to be no kind of release. -/
theorem ofMessage_fails_iff {m : Text} :
    ((∃ f, ofMessage m = .error f) ↔ IsForeign m) ∧
      (IsForeign m ↔ ∃ given, ofMessage m = .error (.notReleaseKind given)) := by
  obtain ⟨hascii, hforeign, hnone⟩ := ofMessage_outcomes m
  have hfails : IsForeign m → ∃ given, ofMessage m = .error (.notReleaseKind given) := by
    rintro ⟨k, spelling, hfirst, hspelling⟩
    exact ⟨_, hforeign k spelling hfirst hspelling⟩
  have hback : (∃ f, ofMessage m = .error f) → IsForeign m := by
    rintro ⟨f, hf⟩
    by_cases hstands : ∀ place k spelling, ¬ Stands (m.drop place) k spelling
    · by_cases hmarked : IsMarked m
      · rw [(hnone hstands).1 hmarked] at hf
        cases hf
      · rw [(hnone hstands).2 hmarked] at hf
        cases hf
    · obtain ⟨spelling, hword⟩ :=
        Option.ne_none_iff_exists'.1 fun h => hstands (firstWord?_eq_none_iff.1 h)
      obtain ⟨k, hfirst⟩ := firstWord?_eq_some_iff.1 hword
      refine ⟨k, spelling, hfirst, fun hspelling => ?_⟩
      rw [hascii k spelling hfirst hspelling] at hf
      cases hf
  constructor
  · refine ⟨hback, fun h => ?_⟩
    obtain ⟨given, hgiven⟩ := hfails h
    exact ⟨_, hgiven⟩
  · exact ⟨hfails, fun ⟨given, hgiven⟩ => hback ⟨_, hgiven⟩⟩

/-- Every other message is understood. -/
theorem ofMessage_eq_ok_iff {m : Text} : (∃ k?, ofMessage m = .ok k?) ↔ ¬ IsForeign m := by
  rw [← ofMessage_fails_iff.1]
  cases ofMessage m <;> simp

end ReleaseKind
end ReleaseNotes
