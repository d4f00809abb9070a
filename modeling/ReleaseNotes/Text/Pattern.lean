/-
Patterns.

A pattern is tried at the front of a text, and there may be several ways in which it matches.  It
stands for what these ways leave of the text, in the order in which they are tried: a repetition
takes as many units as it can, and gives them back one by one if what comes next does not match.

Main statements:
* `Pattern` — patterns, by what their matches leave of a text;
* `Pattern.unit`, `Pattern.word`, `Pattern.atEnd` — patterns for a piece of text;
* `Pattern.followedBy`, `Pattern.orElse`, `Pattern.many`, `Pattern.star` — patterns put together;
* `Pattern.ahead`, `Pattern.absent` — patterns that look ahead and take nothing;
* `Pattern.mem_many` — what a repetition takes.
-/
import ReleaseNotes.Text.Letter

namespace ReleaseNotes

/-- A pattern: what its matches at the front of a text leave, in the order in which they are
tried. -/
abbrev Pattern : Type := Text → List Text

namespace Pattern

/-- Nothing. -/
def nothing : Pattern := fun t => [t]

/-- A unit that passes a test. -/
def unit (test : TextUnit → Bool) : Pattern
  | [] => []
  | u :: t => if test u then [t] else []

/-- A character. -/
def char (c : Char) : Pattern := unit (· == .char c)

/-- A word of small letters, without regard to case. -/
def word (letters : List Char) : Pattern := fun t => ((afterWord? letters t).map Prod.snd).toList

/-- The end of the text, or the place before a line feed that ends it. -/
def atEnd : Pattern := fun t => if t = [] ∨ t = [.char '\n'] then [t] else []

/-- One pattern behind another. -/
def followedBy (p q : Pattern) : Pattern := fun t => (p t).flatMap q

/-- One pattern, or else another. -/
def orElse (p q : Pattern) : Pattern := fun t => p t ++ q t

/-- A pattern, or else nothing. -/
def optional (p : Pattern) : Pattern := p.orElse nothing

/-- The place where a pattern matches. -/
def ahead (p : Pattern) : Pattern := fun t => if (p t).isEmpty then [] else [t]

/-- The place where a pattern does not match. -/
def absent (p : Pattern) : Pattern := fun t => if (p t).isEmpty then [t] else []

/-- What a repetition leaves, when what it leaves with fewer units is known. -/
def manyFrom (place : Pattern) (test : TextUnit → Bool) (fewer : List Text) : Text → List Text
  | [] => [] :: fewer
  | u :: t =>
    if test u && !(place (u :: t)).isEmpty then manyFrom place test ((u :: t) :: fewer) t
    else (u :: t) :: fewer

/-- Units that pass a test, each at a place where a pattern matches: as many as there are, or else
fewer. -/
def many (place : Pattern) (test : TextUnit → Bool) : Pattern := manyFrom place test []

/-- A pattern as often as it matches, or else fewer times; but no more than so many times. -/
def repeated (p : Pattern) : Nat → Pattern
  | 0 => nothing
  | n + 1 => (p.followedBy (p.repeated n)).orElse nothing

/-- A pattern as often as it matches, or else fewer times.  A pattern that takes something with each
match does not match more often than there are units. -/
def star (p : Pattern) : Pattern := fun t => p.repeated t.length t

/-- What was taken between two places of a text. -/
def taken (start rest : Text) : Text := start.take (start.length - rest.length)

/-- A repetition takes these units and leaves this rest: each unit passes the test and begins at a
place for one. -/
inductive Takes (place : Pattern) (test : TextUnit → Bool) : Text → Text → Prop
  | nil {rest : Text} : Takes place test [] rest
  | cons {u : TextUnit} {taken rest : Text} (passes : test u = true)
      (fits : ∃ s, s ∈ place (u :: (taken ++ rest))) (more : Takes place test taken rest) :
      Takes place test (u :: taken) rest

section

variable {p q : Pattern} {test : TextUnit → Bool} {rest t : Text}

@[simp] theorem mem_nothing : rest ∈ nothing t ↔ rest = t := List.mem_singleton

@[simp] theorem mem_unit : rest ∈ unit test t ↔ ∃ u, test u = true ∧ t = u :: rest := by
  cases t with
  | nil => simp [unit]
  | cons v t =>
    rw [unit]
    by_cases hv : test v = true
    · rw [if_pos hv, List.mem_singleton]
      constructor
      · rintro rfl
        exact ⟨v, hv, rfl⟩
      · rintro ⟨u, -, heq⟩
        exact (List.cons_eq_cons.1 heq).2.symm
    · rw [if_neg hv]
      constructor
      · rintro ⟨⟩
      · rintro ⟨u, hu, heq⟩
        rw [(List.cons_eq_cons.1 heq).1] at hv
        exact absurd hu hv

@[simp] theorem mem_char {c : Char} : rest ∈ char c t ↔ t = .char c :: rest := by
  simp [char]

@[simp] theorem mem_word {letters : List Char} :
    rest ∈ word letters t ↔ ∃ spelling, afterWord? letters t = some (spelling, rest) := by
  simp [word, Option.map_eq_some_iff]

@[simp] theorem mem_atEnd : rest ∈ atEnd t ↔ (t = [] ∨ t = [.char '\n']) ∧ rest = t := by
  by_cases ht : t = [] ∨ t = [.char '\n'] <;> simp [atEnd, ht]

@[simp] theorem mem_followedBy : rest ∈ p.followedBy q t ↔ ∃ s ∈ p t, rest ∈ q s :=
  List.mem_flatMap

@[simp] theorem mem_orElse : rest ∈ p.orElse q t ↔ rest ∈ p t ∨ rest ∈ q t := List.mem_append

@[simp] theorem mem_optional : rest ∈ p.optional t ↔ rest ∈ p t ∨ rest = t := by
  simp [optional]

@[simp] theorem mem_ahead : rest ∈ p.ahead t ↔ (∃ s, s ∈ p t) ∧ rest = t := by
  unfold ahead
  cases hp : p t with
  | nil => simp
  | cons s ss => simp [exists_or_eq_left]

@[simp] theorem mem_absent : rest ∈ p.absent t ↔ (∀ s, s ∉ p t) ∧ rest = t := by
  unfold absent
  cases hp : p t with
  | nil => simp
  | cons s ss =>
    simp only [List.isEmpty_cons, Bool.false_eq_true, if_false, List.not_mem_nil, false_iff]
    rintro ⟨hall, -⟩
    exact hall s List.mem_cons_self

theorem exists_takes_cons {u : TextUnit} :
    (∃ taken, u :: t = taken ++ rest ∧ Takes p test taken rest) ↔ rest = u :: t ∨
      (test u = true ∧ ∃ s, s ∈ p (u :: t)) ∧
        ∃ taken, t = taken ++ rest ∧ Takes p test taken rest := by
  constructor
  · rintro ⟨taken, heq, htakes⟩
    cases htakes with
    | nil => exact .inl heq.symm
    | cons hu hplace htakes =>
      obtain ⟨rfl, rfl⟩ := List.cons_eq_cons.1 heq
      exact .inr ⟨⟨hu, hplace⟩, _, rfl, htakes⟩
  · rintro (rfl | ⟨⟨hu, hplace⟩, taken, rfl, htakes⟩)
    · exact ⟨[], rfl, .nil⟩
    · exact ⟨u :: taken, rfl, .cons hu hplace htakes⟩

theorem mem_manyFrom {fewer : List Text} : rest ∈ manyFrom p test fewer t ↔
    rest ∈ fewer ∨ ∃ taken, t = taken ++ rest ∧ Takes p test taken rest := by
  induction t generalizing fewer with
  | nil =>
    rw [manyFrom, List.mem_cons, or_comm]
    refine or_congr_right ⟨?_, ?_⟩
    · rintro rfl
      exact ⟨[], rfl, .nil⟩
    · rintro ⟨taken, heq, -⟩
      exact (List.append_eq_nil_iff.1 heq.symm).2
  | cons u t ih =>
    have hgoes : (test u && !(p (u :: t)).isEmpty) = true ↔
        test u = true ∧ ∃ s, s ∈ p (u :: t) := by
      rw [Bool.and_eq_true, Bool.not_eq_true', List.isEmpty_eq_false_iff_exists_mem]
    rw [manyFrom, exists_takes_cons, ← hgoes]
    by_cases hu : (test u && !(p (u :: t)).isEmpty) = true
    · simp [hu, ih, or_assoc, or_left_comm]
    · simp [hu, or_comm]

@[simp] theorem taken_append (s rest : Text) : taken (s ++ rest) rest = s := by
  rw [taken, List.length_append, Nat.add_sub_cancel, List.take_left]

theorem takes_nothing_iff {taken rest : Text} :
    Takes nothing test taken rest ↔ ∀ u ∈ taken, test u = true := by
  constructor
  · intro h
    induction h with
    | nil => simp
    | cons hu _ _ ih => simpa [hu] using ih
  · intro h
    induction taken with
    | nil => exact .nil
    | cons u taken ih =>
      exact .cons (h u List.mem_cons_self) ⟨_, mem_nothing.2 rfl⟩
        (ih fun v hv => h v (List.mem_cons_of_mem _ hv))

/-- What a repetition leaves: the rest behind units that it takes. -/
@[simp] theorem mem_many :
    rest ∈ many p test t ↔ ∃ taken, t = taken ++ rest ∧ Takes p test taken rest := by
  simp [many, mem_manyFrom]

end

end Pattern
end ReleaseNotes
