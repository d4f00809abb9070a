/-
Areas of a commit.

The areas of paths are kept in ascending order of their code points, each once.  Such a list is
fixed by what is in it, so it is enough to say what the areas are: the first parts of the paths that
have several, and a point if there is a path that has not.

Main statements:
* `TextUnit.code_injective`, `Text.trichotomous` — the order of texts by their code points;
* `Text.Ascending` — texts in ascending order, each once;
* `Text.Ascending.eq_of_mem_iff` — ascending texts are fixed by what is among them;
* `Impact.ascending_areasOf`, `Impact.mem_areasOf` — the order and the members of the areas;
* `Impact.areasOf_eq_of_perm` — paths in another order have the same areas;
* `Impact.mem_areasOf_ne_point`, `Impact.point_mem_areasOf` — the areas by the parts of the paths.
-/
import Mathlib.Data.List.Lex
import ReleaseNotes.Tool.CommitTools

namespace ReleaseNotes

/-! ### The order of texts -/

theorem TextUnit.code_injective : Function.Injective TextUnit.code := by
  have hchar : ∀ c : Char, c.toNat < 0xD800 ∨ (0xDFFF < c.toNat ∧ c.toNat < 0x110000) :=
    fun c => c.valid
  intro u v h
  cases u with
  | char c =>
    have hc := hchar c
    cases v with
    | char d => rw [Char.toNat_inj.1 h]
    | half offset =>
      have h : c.toNat = 0xD800 + offset.val := h
      omega
    | byte value =>
      have h : c.toNat = 0x110000 + value.toNat := h
      omega
  | half offset =>
    cases v with
    | char d =>
      have hd := hchar d
      have h : 0xD800 + offset.val = d.toNat := h
      omega
    | half other =>
      have h : 0xD800 + offset.val = 0xD800 + other.val := h
      rw [Fin.ext (by omega : offset.val = other.val)]
    | byte value =>
      have h : 0xD800 + offset.val = 0x110000 + value.toNat := h
      omega
  | byte value =>
    cases v with
    | char d =>
      have hd := hchar d
      have h : 0x110000 + value.toNat = d.toNat := h
      omega
    | half offset =>
      have h : 0x110000 + value.toNat = 0xD800 + offset.val := h
      omega
    | byte other =>
      have h : 0x110000 + value.toNat = 0x110000 + other.toNat := h
      rw [UInt8.toNat_inj.1 (by omega : value.toNat = other.toNat)]

namespace Text

/-- The code points of a text. -/
def codes (t : Text) : List Nat := t.map TextUnit.code

theorem codes_injective : Function.Injective codes :=
  List.map_injective_iff.2 TextUnit.code_injective

theorem isBefore_iff {a b : Text} : a.isBefore b = true ↔ a.codes < b.codes := decide_eq_true_iff

theorem trichotomous (a b : Text) : a.codes < b.codes ∨ a = b ∨ b.codes < a.codes := by
  rcases lt_trichotomy a.codes b.codes with h | h | h
  · exact .inl h
  · exact .inr (.inl (codes_injective h))
  · exact .inr (.inr h)

/-- Each of the texts comes before the ones behind it, by their code points. -/
def Ascending (l : List Text) : Prop := l.Pairwise fun a b => a.codes < b.codes

theorem Ascending.nodup {l : List Text} (h : Ascending l) : l.Nodup :=
  h.imp fun hlt heq => absurd (heq ▸ hlt) (lt_irrefl _)

/-- Ascending texts are fixed by what is among them. -/
theorem Ascending.eq_of_mem_iff {l m : List Text} (hl : Ascending l) (hm : Ascending m)
    (h : ∀ a, a ∈ l ↔ a ∈ m) : l = m := by
  have hperm : l.Perm m := (List.perm_ext_iff_of_nodup hl.nodup hm.nodup).2 h
  exact hperm.eq_of_pairwise (fun a b _ _ hab hba => absurd hba (lt_asymm hab)) hl hm

end Text

open Text

namespace Impact

/-! ### The areas of paths -/

theorem mem_insertArea {a b : Text} {l : List Text} : b ∈ insertArea a l ↔ b = a ∨ b ∈ l := by
  induction l with
  | nil => rw [insertArea, List.mem_singleton]; simp
  | cons c l ih =>
    rw [insertArea]
    split
    · exact List.mem_cons
    · split
      · next heq => simp [heq]
      · rw [List.mem_cons, ih, List.mem_cons]
        exact or_left_comm

theorem ascending_insertArea (a : Text) {l : List Text} (h : Ascending l) :
    Ascending (insertArea a l) := by
  induction l with
  | nil => exact List.pairwise_singleton _ a
  | cons c l ih =>
    obtain ⟨hc, hl⟩ := List.pairwise_cons.1 h
    rw [insertArea]
    split
    · next hbefore =>
      have hac : a.codes < c.codes := isBefore_iff.1 hbefore
      refine List.pairwise_cons.2 ⟨fun b hb => ?_, h⟩
      rcases List.mem_cons.1 hb with rfl | hb
      · exact hac
      · exact hac.trans (hc b hb)
    · next hbefore =>
      split
      · exact h
      · next hne =>
        have hca : c.codes < a.codes :=
          (trichotomous a c).resolve_left (mt isBefore_iff.2 hbefore) |>.resolve_left hne
        refine List.pairwise_cons.2 ⟨fun b hb => ?_, ih hl⟩
        rcases mem_insertArea.1 hb with rfl | hb
        · exact hca
        · exact hc b hb

theorem ascending_areasOf (paths : List Path) : Ascending (areasOf paths) := by
  induction paths with
  | nil => exact .nil
  | cons p paths ih => exact ascending_insertArea (area p) ih

theorem mem_areasOf {paths : List Path} {a : Text} :
    a ∈ areasOf paths ↔ ∃ p ∈ paths, area p = a := by
  induction paths with
  | nil => simp [areasOf]
  | cons p paths ih =>
    have hstep : areasOf (p :: paths) = insertArea (area p) (areasOf paths) := rfl
    rw [hstep, mem_insertArea, ih, List.exists_mem_cons_iff, eq_comm]

/-- Paths in another order have the same areas. -/
theorem areasOf_eq_of_perm {paths others : List Path} (h : paths.Perm others) :
    areasOf paths = areasOf others := by
  refine (ascending_areasOf paths).eq_of_mem_iff (ascending_areasOf others) fun a => ?_
  simp only [mem_areasOf, h.mem_iff]

/-! ### The area of a path -/

/-- What is not a step of a path: nothing at all, and a single point. -/
theorem ne_point_of_mem_steps {t step : Text} (h : step ∈ (Path.ofText t).steps) :
    step ≠ [] ∧ step ≠ Text.ofString "." := by
  have hkept := (List.mem_filter.1 h).2
  simpa [Text.ofString, Text.ofChars] using hkept

theorem ne_point_of_mem_parts {t part : Text} (h : part ∈ (Path.ofText t).parts) :
    part ≠ Text.ofString "." := by
  rw [Path.parts] at h
  split at h
  · exact (ne_point_of_mem_steps h).2
  · rcases List.mem_cons.1 h with rfl | h
    · show Path.rootOf t ≠ Text.ofString "."
      unfold Path.rootOf
      split <;> decide
    · exact (ne_point_of_mem_steps h).2

theorem area_of_parts {p : Path} {first : Text} {rest : List Text} (h : p.parts = first :: rest)
    (hrest : rest ≠ []) : area p = first := by
  obtain ⟨second, rest, rfl⟩ := List.exists_cons_of_ne_nil hrest
  rw [area, h]

theorem area_of_short {p : Path} (h : p.parts.length ≤ 1) : area p = Text.ofString "." := by
  rw [area]
  split
  · next first second rest hparts =>
    rw [hparts] at h
    simp at h
  · rfl

/-- The area of a path is its first part if it has several, and a point exactly if it has not. -/
theorem area_cases (t : Text) :
    (∃ rest, rest ≠ [] ∧ (Path.ofText t).parts = area (Path.ofText t) :: rest ∧
      area (Path.ofText t) ≠ Text.ofString ".") ∨
      (Path.ofText t).parts.length ≤ 1 ∧ area (Path.ofText t) = Text.ofString "." := by
  rcases hparts : (Path.ofText t).parts with _ | ⟨first, _ | ⟨second, rest⟩⟩
  · exact .inr ⟨by simp, area_of_short (by simp [hparts])⟩
  · exact .inr ⟨by simp, area_of_short (by simp [hparts])⟩
  · have harea : area (Path.ofText t) = first := area_of_parts hparts (List.cons_ne_nil _ _)
    refine .inl ⟨second :: rest, List.cons_ne_nil _ _, by rw [harea], ?_⟩
    rw [harea]
    exact ne_point_of_mem_parts (hparts ▸ List.mem_cons_self)

theorem mem_areasOf_map {paths : List Text} {a : Text} :
    a ∈ areasOf (paths.map Path.ofText) ↔ ∃ t ∈ paths, area (Path.ofText t) = a := by
  simp only [mem_areasOf, List.mem_map, exists_exists_and_eq_and]

/-- The areas other than the point are the first parts of the paths that have several. -/
theorem mem_areasOf_ne_point {paths : List Text} {a : Text} (ha : a ≠ Text.ofString ".") :
    a ∈ areasOf (paths.map Path.ofText) ↔
      ∃ t ∈ paths, ∃ rest, rest ≠ [] ∧ (Path.ofText t).parts = a :: rest := by
  rw [mem_areasOf_map]
  constructor
  · rintro ⟨t, ht, rfl⟩
    rcases area_cases t with ⟨rest, hrest, hparts, -⟩ | ⟨-, hpoint⟩
    · exact ⟨t, ht, rest, hrest, hparts⟩
    · exact absurd hpoint ha
  · rintro ⟨t, ht, rest, hrest, hparts⟩
    exact ⟨t, ht, area_of_parts hparts hrest⟩

/-- The point is an area exactly if there is a path of one part at most. -/
theorem point_mem_areasOf {paths : List Text} :
    Text.ofString "." ∈ areasOf (paths.map Path.ofText) ↔
      ∃ t ∈ paths, (Path.ofText t).parts.length ≤ 1 := by
  rw [mem_areasOf_map]
  constructor
  · rintro ⟨t, ht, harea⟩
    rcases area_cases t with ⟨-, -, -, hne⟩ | ⟨hshort, -⟩
    · exact absurd harea hne
    · exact ⟨t, ht, hshort⟩
  · rintro ⟨t, ht, hshort⟩
    exact ⟨t, ht, area_of_short hshort⟩

end Impact
end ReleaseNotes
