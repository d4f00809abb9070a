/-
What patterns match.

A pattern that does not look at what stands behind it takes the same texts wherever it is tried: it
is told by the texts that it takes.  Patterns put together take texts put together, and a repetition
takes a row of texts, as long as its pattern takes none that is empty.

Main statements:
* `Pattern.Matches` — the texts that a pattern takes;
* `Pattern.matches_unit`, `Pattern.matches_char`, `Pattern.matches_units` — pieces of text;
* `Pattern.Matches.followedBy`, `Pattern.Matches.orElse`, `Pattern.Matches.optional` — patterns put
  together;
* `Pattern.Matches.star` — repetitions.
-/
import ReleaseNotes.Text.Pattern

namespace ReleaseNotes
namespace Pattern

/-- A pattern takes exactly these texts, whatever stands behind them. -/
def Matches (p : Pattern) (taken : Text → Prop) : Prop :=
  ∀ t rest, rest ∈ p t ↔ ∃ s, taken s ∧ t = s ++ rest

variable {p q : Pattern} {P Q : Text → Prop} {test : TextUnit → Bool}

theorem Matches.congr (hp : p.Matches P) (h : ∀ s, P s ↔ Q s) : p.Matches Q := by
  intro t rest
  simp only [hp t rest, h]

theorem matches_unit : (unit test).Matches fun s => ∃ u, test u = true ∧ s = [u] := by
  intro t rest
  rw [mem_unit]
  constructor
  · rintro ⟨u, hu, rfl⟩
    exact ⟨[u], ⟨u, hu, rfl⟩, rfl⟩
  · rintro ⟨s, ⟨u, hu, rfl⟩, rfl⟩
    exact ⟨u, hu, rfl⟩

theorem matches_char (c : Char) : (char c).Matches fun s => s = [.char c] := by
  intro t rest
  simp

theorem matches_units : (many nothing test).Matches fun s => ∀ u ∈ s, test u = true := by
  intro t rest
  rw [mem_many]
  constructor
  · rintro ⟨s, ht, htakes⟩
    exact ⟨s, takes_nothing_iff.1 htakes, ht⟩
  · rintro ⟨s, hs, ht⟩
    exact ⟨s, ht, takes_nothing_iff.2 hs⟩

theorem Matches.followedBy (hp : p.Matches P) (hq : q.Matches Q) :
    (p.followedBy q).Matches fun s => ∃ a b, s = a ++ b ∧ P a ∧ Q b := by
  intro t rest
  rw [mem_followedBy]
  constructor
  · rintro ⟨behind, hbehind, hrest⟩
    obtain ⟨a, ha, rfl⟩ := (hp t behind).1 hbehind
    obtain ⟨b, hb, rfl⟩ := (hq behind rest).1 hrest
    exact ⟨a ++ b, ⟨a, b, rfl, ha, hb⟩, (List.append_assoc _ _ _).symm⟩
  · rintro ⟨_, ⟨a, b, rfl, ha, hb⟩, rfl⟩
    exact ⟨b ++ rest, (hp _ _).2 ⟨a, ha, List.append_assoc _ _ _⟩, (hq _ _).2 ⟨b, hb, rfl⟩⟩

theorem Matches.orElse (hp : p.Matches P) (hq : q.Matches Q) :
    (p.orElse q).Matches fun s => P s ∨ Q s := by
  intro t rest
  rw [mem_orElse, hp, hq]
  simp only [or_and_right, exists_or]

theorem Matches.optional (hp : p.Matches P) : p.optional.Matches fun s => P s ∨ s = [] := by
  intro t rest
  rw [mem_optional, hp]
  simp only [or_and_right, exists_or, exists_eq_left, List.nil_append]
  rw [eq_comm (a := rest)]

/-- What a pattern takes again and again, so many times at most. -/
theorem Matches.repeated (hp : p.Matches P) (n : Nat) : (p.repeated n).Matches
    fun s => ∃ parts : List Text, parts.length ≤ n ∧ (∀ a ∈ parts, P a) ∧ s = parts.flatten := by
  induction n with
  | zero =>
    intro t rest
    show rest ∈ nothing t ↔ _
    rw [mem_nothing]
    constructor
    · rintro rfl
      exact ⟨[], ⟨[], Nat.le_refl 0, nofun, rfl⟩, rfl⟩
    · rintro ⟨_, ⟨parts, hparts, -, rfl⟩, rfl⟩
      rw [List.length_eq_zero_iff.1 (Nat.le_zero.1 hparts)]
      rfl
  | succ n ih =>
    -- the last pattern may be left out, or it is followed by at most so many more
    have hnothing : nothing.Matches fun s => s = [] := by
      intro t rest
      simp [eq_comm]
    refine ((hp.followedBy ih).orElse hnothing).congr fun s => ?_
    constructor
    · rintro (⟨a, _, rfl, ha, parts, hlength, hparts, rfl⟩ | rfl)
      · refine ⟨a :: parts, Nat.succ_le_succ hlength, ?_, rfl⟩
        simpa using ⟨ha, hparts⟩
      · exact ⟨[], Nat.zero_le _, nofun, rfl⟩
    · rintro ⟨parts, hlength, hparts, rfl⟩
      cases parts with
      | nil => exact .inr rfl
      | cons a parts =>
        refine .inl ⟨a, parts.flatten, rfl, hparts a List.mem_cons_self, parts, ?_, ?_, rfl⟩
        · exact Nat.le_of_succ_le_succ hlength
        · intro b hb
          exact hparts b (List.mem_cons_of_mem _ hb)

theorem length_le_length_flatten {parts : List Text} (h : ∀ a ∈ parts, a ≠ []) :
    parts.length ≤ parts.flatten.length := by
  induction parts with
  | nil => simp
  | cons a parts ih =>
    have ha : 0 < a.length := List.length_pos_iff.2 (h a List.mem_cons_self)
    have hrest := ih fun b hb => h b (List.mem_cons_of_mem _ hb)
    simp only [List.length_cons, List.flatten_cons, List.length_append]
    omega

/-- What a pattern takes again and again, when it never takes nothing. -/
theorem Matches.star (hp : p.Matches P) (hne : ∀ s, P s → s ≠ []) :
    p.star.Matches fun s => ∃ parts : List Text, (∀ a ∈ parts, P a) ∧ s = parts.flatten := by
  intro t rest
  show rest ∈ p.repeated t.length t ↔ _
  rw [hp.repeated]
  constructor
  · rintro ⟨s, ⟨parts, -, hparts, hs⟩, ht⟩
    exact ⟨s, ⟨parts, hparts, hs⟩, ht⟩
  · rintro ⟨s, ⟨parts, hparts, hs⟩, ht⟩
    refine ⟨s, ⟨parts, ?_, hparts, hs⟩, ht⟩
    -- each part takes a unit of the text
    have hlength := length_le_length_flatten fun a ha => hne a (hparts a ha)
    rw [ht, hs, List.length_append]
    omega

end Pattern
end ReleaseNotes
