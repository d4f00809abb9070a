/-
How versions are spelled.

A version is spelled by its parts: three numbers, the identifiers of a prerelease behind a hyphen,
and the identifiers of a build behind a plus.  The grammar says which parts are well formed and how
they are spelled.  No part holds the mark that stands behind it, so whoever cuts a text at its marks
finds the parts again in exactly the texts that are spelled so.

Main statements:
* `Version.IsNumber`, `Version.IsIdentifier`, `Version.IsPrereleaseItem` — the parts of the grammar;
* `Version.Parts.WellFormed`, `Version.Parts.spelled` — the grammar;
* `Version.Spells` — a text spells a version, with or without a leading `v`;
* `Version.split?`, `Version.split?_eq_some_iff` — a text that is cut at its marks;
* `Version.Spells.unique` — a text spells at most one version.
-/
import Mathlib.Data.List.TakeWhile
import Mathlib.Tactic.Tauto
import ReleaseNotes.Version.Parse

namespace ReleaseNotes
namespace Version

/-! ### The grammar -/

/-- The digits of numbers. -/
def IsDigit (c : Char) : Prop := '0' ≤ c ∧ c ≤ '9'

/-- The characters of identifiers: letters, digits and the hyphen. -/
def IsIdentifierLetter (c : Char) : Prop :=
  IsDigit c ∨ ('A' ≤ c ∧ c ≤ 'Z') ∨ ('a' ≤ c ∧ c ≤ 'z') ∨ c = '-'

/-- A zero alone, or digits that do not begin with a zero. -/
def IsNumber (cs : List Char) : Prop :=
  cs = ['0'] ∨ (cs ≠ [] ∧ (∀ c ∈ cs, IsDigit c) ∧ cs.head? ≠ some '0')

/-- An identifier, as it may stand in a build. -/
def IsIdentifier (cs : List Char) : Prop := cs ≠ [] ∧ ∀ c ∈ cs, IsIdentifierLetter c

/-- An identifier of a prerelease: one of digits only is a number. -/
def IsPrereleaseItem (cs : List Char) : Prop :=
  IsIdentifier cs ∧ ((∀ c ∈ cs, IsDigit c) → IsNumber cs)

/-- The parts follow the grammar. -/
structure Parts.WellFormed (p : Parts) : Prop where
  major : IsNumber p.major
  minor : IsNumber p.minor
  patch : IsNumber p.patch
  prerelease : ∀ i ∈ p.prerelease, IsPrereleaseItem i
  build : ∀ i ∈ p.build, IsIdentifier i

/-- Identifiers joined by points behind a mark; nothing if there are none. -/
def marked (mark : Char) (items : List (List Char)) : List Char :=
  if items = [] then [] else mark :: ['.'].intercalate items

/-- The three numbers, joined by points. -/
def Parts.core (p : Parts) : List Char := p.major ++ '.' :: (p.minor ++ '.' :: p.patch)

/-- How the parts are spelled. -/
def Parts.spelled (p : Parts) : List Char :=
  p.core ++ marked '-' p.prerelease ++ marked '+' p.build

/-- A text spells a version with these parts, with or without a leading `v`. -/
def Spells (t : Text) (p : Parts) : Prop :=
  p.WellFormed ∧ (t = Text.ofChars p.spelled ∨ t = Text.ofChars ('v' :: p.spelled))

/-- The numbers are short enough to be read. -/
def Parts.IsShort (p : Parts) : Prop :=
  p.major.length ≤ Numeral.maxDigits ∧ p.minor.length ≤ Numeral.maxDigits ∧
    p.patch.length ≤ Numeral.maxDigits

/-- The version with these parts. -/
def Parts.version (p : Parts) : Version :=
  ⟨Numeral.value p.major, Numeral.value p.minor, Numeral.value p.patch,
    p.prerelease.map String.ofList, p.build.map String.ofList⟩

/-! ### Cutting a text at its marks -/

/-- Whether the characters are a digit, or digits that do not begin with zero. -/
def isNumeral (cs : List Char) : Bool :=
  !cs.isEmpty && cs.all Char.isDigit && (cs.head? != some '0' || cs.length == 1)

/-- Whether the characters are an identifier of a build. -/
def isBuildIdentifier (cs : List Char) : Bool := !cs.isEmpty && cs.all isIdentifierChar

/-- Whether the characters are an identifier of a prerelease. -/
def isPrereleaseIdentifier (cs : List Char) : Bool :=
  isBuildIdentifier cs && (!cs.all Char.isDigit || isNumeral cs)

/-- The characters before the first occurrence of a mark, and the characters behind it. -/
def cut (mark : Char) (cs : List Char) : List Char × Option (List Char) :=
  match cs.dropWhile (· != mark) with
  | [] => (cs, none)
  | _ :: rest => (cs.takeWhile (· != mark), some rest)

/-- The identifiers of an optional part, if each passes the test. -/
def identifiers? (test : List Char → Bool) : Option (List Char) → Option (List (List Char))
  | none => some []
  | some cs => if (cs.splitOn '.').all test then some (cs.splitOn '.') else none

/-- The characters behind one leading `v`, if there is one. -/
def withoutTag : List Char → List Char
  | 'v' :: cs => cs
  | cs => cs

/-- The parts of a text that follows the grammar. -/
def split? (cs : List Char) : Option Parts := do
  let (front, behindPlus) := cut '+' (withoutTag cs)
  let (core, behindDash) := cut '-' front
  let prerelease ← identifiers? isPrereleaseIdentifier behindDash
  let build ← identifiers? isBuildIdentifier behindPlus
  match core.splitOn '.' with
  | [major, minor, patch] =>
    if isNumeral major && isNumeral minor && isNumeral patch then
      some ⟨major, minor, patch, prerelease, build⟩
    else none
  | _ => none

/-! ### The tests -/

theorem isDigit_iff {c : Char} : c.isDigit = true ↔ IsDigit c := by
  simp [Char.isDigit, IsDigit, Char.le_def]

theorem all_isDigit_iff {cs : List Char} : cs.all Char.isDigit = true ↔ ∀ c ∈ cs, IsDigit c := by
  simp only [List.all_eq_true, isDigit_iff]

theorem isIdentifierChar_iff {c : Char} : isIdentifierChar c = true ↔ IsIdentifierLetter c := by
  have hletter : c.isAlpha =
      (decide ('A'.val ≤ c.val ∧ c.val ≤ 'Z'.val) ||
        decide ('a'.val ≤ c.val) && decide (c.val ≤ 'z'.val)) := rfl
  simp only [isIdentifierChar, Char.isAlphanum, hletter, Bool.or_eq_true, Bool.and_eq_true,
    decide_eq_true_eq, isDigit_iff, beq_iff_eq, IsIdentifierLetter, Char.le_def]
  tauto

theorem isNumeral_iff {cs : List Char} : isNumeral cs = true ↔ IsNumber cs := by
  cases cs with
  | nil => simp [isNumeral, IsNumber]
  | cons c rest =>
    simp only [isNumeral, List.isEmpty_cons, Bool.not_false, Bool.true_and, Bool.and_eq_true,
      all_isDigit_iff, Bool.or_eq_true, bne_iff_ne, beq_iff_eq, List.length_cons, IsNumber]
    constructor
    · rintro ⟨hdigits, hhead | hlength⟩
      · exact .inr ⟨by simp, hdigits, hhead⟩
      · -- one digit alone is a zero or not
        have hrest : rest = [] := List.length_eq_zero_iff.1 (by omega)
        subst hrest
        by_cases hc : c = '0'
        · exact .inl (by rw [hc])
        · exact .inr ⟨by simp, hdigits, by simpa using hc⟩
    · rintro (hzero | ⟨-, hdigits, hhead⟩)
      · obtain ⟨rfl, rfl⟩ := List.cons_eq_cons.1 hzero
        refine ⟨fun c hc => ?_, .inr rfl⟩
        rw [List.mem_singleton.1 hc]
        exact isDigit_iff.1 (by decide)
      · exact ⟨hdigits, .inl hhead⟩

theorem isBuildIdentifier_iff {cs : List Char} :
    isBuildIdentifier cs = true ↔ IsIdentifier cs := by
  simp [isBuildIdentifier, IsIdentifier, isIdentifierChar_iff]

theorem isPrereleaseIdentifier_iff {cs : List Char} :
    isPrereleaseIdentifier cs = true ↔ IsPrereleaseItem cs := by
  rw [isPrereleaseIdentifier, Bool.and_eq_true, Bool.or_eq_true, isBuildIdentifier_iff,
    isNumeral_iff, Bool.not_eq_true', ← Bool.not_eq_true, all_isDigit_iff, IsPrereleaseItem,
    imp_iff_not_or]

/-! ### The marks -/

theorem IsIdentifier.not_mem {cs : List Char} (h : IsIdentifier cs) {mark : Char}
    (hmark : isIdentifierChar mark = false) : mark ∉ cs := by
  intro hmem
  have := isIdentifierChar_iff.2 (h.2 mark hmem)
  rw [hmark] at this
  cases this

theorem IsNumber.isIdentifier {cs : List Char} (h : IsNumber cs) : IsIdentifier cs := by
  rcases h with rfl | ⟨hne, hdigits, -⟩
  · exact isBuildIdentifier_iff.1 (by decide)
  · exact ⟨hne, fun c hc => .inl (hdigits c hc)⟩

theorem IsNumber.hyphen_not_mem {cs : List Char} (h : IsNumber cs) : '-' ∉ cs := by
  intro hmem
  rcases h with rfl | ⟨-, hdigits, -⟩
  · exact absurd hmem (by decide)
  · exact absurd (isDigit_iff.2 (hdigits '-' hmem)) (by decide)

/-- A cut is the only one at a mark that does not occur before it. -/
theorem cut_eq_iff {mark : Char} {cs front : List Char} {behind : Option (List Char)} :
    cut mark cs = (front, behind) ↔
      mark ∉ front ∧ cs = front ++ behind.elim [] (mark :: ·) := by
  have hfront : ∀ {l : List Char}, mark ∉ l ↔ ∀ c ∈ l, (c != mark) = true := by
    intro l
    simp only [bne_iff_ne, ne_eq]
    exact ⟨fun h c hc hcm => h (hcm ▸ hc), fun h hm => h mark hm rfl⟩
  constructor
  · -- the cut is made at the first character that is the mark
    intro h
    have hsplit := List.takeWhile_append_dropWhile (p := (· != mark)) (l := cs)
    unfold cut at h
    split at h
    · next hnil =>
      obtain ⟨rfl, rfl⟩ := Prod.mk.injEq .. ▸ h
      exact ⟨hfront.2 (List.dropWhile_eq_nil_iff.1 hnil), by simp⟩
    · next c rest hcons =>
      obtain ⟨rfl, rfl⟩ := Prod.mk.injEq .. ▸ h
      have hc := List.head_dropWhile_not (· != mark) (l := cs) (by simp [hcons])
      simp only [hcons, List.head_cons, bne_eq_false_iff_eq] at hc
      refine ⟨hfront.2 fun d hd => List.mem_takeWhile_imp (p := (· != mark)) hd, ?_⟩
      rw [hcons, hc] at hsplit
      exact hsplit.symm
  · rintro ⟨hnot, rfl⟩
    have hpos := hfront.1 hnot
    unfold cut
    cases behind with
    | none =>
      have hnil : front.dropWhile (· != mark) = [] := List.dropWhile_eq_nil_iff.2 hpos
      simp [hnil]
    | some rest =>
      simp only [Option.elim, List.dropWhile_append_of_pos hpos, List.takeWhile_append_of_pos hpos,
        List.dropWhile_cons, List.takeWhile_cons, bne_self_eq_false, Bool.false_eq_true, if_false,
        List.append_nil]

/-- The identifiers of a part are joined by points. -/
theorem identifiers?_eq_some_iff {test : List Char → Bool}
    (hpoint : ∀ cs, test cs = true → '.' ∉ cs) (mark : Char) {behind : Option (List Char)}
    {items : List (List Char)} :
    identifiers? test behind = some items ↔
      (∀ i ∈ items, test i = true) ∧ behind.elim [] (mark :: ·) = marked mark items := by
  cases behind with
  | none =>
    simp only [identifiers?, Option.some.injEq, Option.elim, marked]
    constructor
    · rintro rfl
      simp
    · rintro ⟨-, h⟩
      split at h
      · next hnil => exact hnil.symm
      · cases h
  | some cs =>
    simp only [identifiers?, Option.elim, marked]
    constructor
    · intro h
      split at h
      · next hall =>
        cases h
        have hne : cs.splitOn '.' ≠ [] := by
          unfold List.splitOn
          exact List.splitOnP_ne_nil _ _
        rw [if_neg hne, List.intercalate_splitOn]
        exact ⟨List.all_eq_true.1 hall, rfl⟩
      · cases h
    · rintro ⟨hitems, hcs⟩
      split at hcs
      · cases hcs
      · next hne =>
        obtain ⟨-, rfl⟩ := List.cons_eq_cons.1 hcs
        rw [List.splitOn_intercalate '.' (fun i hi => hpoint i (hitems i hi)) hne,
          if_pos (List.all_eq_true.2 hitems)]

/-! ### The numbers -/

theorem splitOn_core {a b c : List Char} (ha : '.' ∉ a) (hb : '.' ∉ b) (hc : '.' ∉ c) :
    (a ++ '.' :: (b ++ '.' :: c)).splitOn '.' = [a, b, c] := by
  have hjoined : ['.'].intercalate [a, b, c] = a ++ '.' :: (b ++ '.' :: c) := by
    simp [List.intercalate, List.intersperse]
  rw [← hjoined]
  refine List.splitOn_intercalate '.' ?_ (by simp)
  simp [ha, hb, hc]

theorem eq_core_of_splitOn {cs a b c : List Char} (h : cs.splitOn '.' = [a, b, c]) :
    cs = a ++ '.' :: (b ++ '.' :: c) := by
  rw [← @List.intercalate_splitOn _ cs _ _ '.', h]
  simp [List.intercalate, List.intersperse]

/-- The core of well-formed parts holds no mark that no number holds. -/
theorem Parts.WellFormed.not_mem_core {p : Parts} (h : p.WellFormed) {mark : Char}
    (hmark : ∀ cs, IsNumber cs → mark ∉ cs) (hne : mark ≠ '.') : mark ∉ p.core := by
  simp only [Parts.core, List.mem_append, List.mem_cons, not_or]
  exact ⟨hmark _ h.major, hne, hmark _ h.minor, hne, hmark _ h.patch⟩

theorem not_mem_intercalate {mark : Char} {items : List (List Char)} (hne : mark ≠ '.')
    (h : ∀ i ∈ items, mark ∉ i) : mark ∉ ['.'].intercalate items := by
  induction items with
  | nil => simp
  | cons first rest ih =>
    have hrest := ih fun i hi => h i (List.mem_cons_of_mem _ hi)
    have hfirst := h first List.mem_cons_self
    cases rest with
    | nil => simpa using hfirst
    | cons second rest =>
      simp only [List.intercalate_cons_cons, List.mem_append, List.mem_singleton, not_or]
      exact ⟨⟨hfirst, hne⟩, hrest⟩

/-- What stands before the plus of well-formed parts holds none. -/
theorem Parts.WellFormed.plus_not_mem {p : Parts} (h : p.WellFormed) :
    '+' ∉ p.core ++ marked '-' p.prerelease := by
  rw [List.mem_append, not_or]
  refine ⟨h.not_mem_core (fun cs hcs => hcs.isIdentifier.not_mem (by decide)) (by decide), ?_⟩
  unfold marked
  split
  · simp
  · rw [List.mem_cons, not_or]
    exact ⟨by decide, not_mem_intercalate (by decide) fun i hi =>
      (h.prerelease i hi).1.not_mem (by decide)⟩

theorem exists_elim_eq_marked (mark : Char) (items : List (List Char)) :
    ∃ behind : Option (List Char), behind.elim [] (mark :: ·) = marked mark items := by
  by_cases h : items = []
  · exact ⟨none, by rw [marked, if_pos h, Option.elim]⟩
  · exact ⟨some (['.'].intercalate items), by rw [marked, if_neg h, Option.elim]⟩

/-! ### The texts that are cut -/

/-- No spelled version begins with a `v`, so at most one is taken off. -/
theorem Parts.WellFormed.withoutTag_eq_iff {p : Parts} (h : p.WellFormed) {cs : List Char} :
    withoutTag cs = p.spelled ↔ cs = p.spelled ∨ cs = 'v' :: p.spelled := by
  have hv : ∀ ds, p.spelled ≠ 'v' :: ds := by
    intro ds hds
    obtain ⟨hne, -⟩ := h.major.isIdentifier
    obtain ⟨c, rest, hmajor⟩ := List.exists_cons_of_ne_nil hne
    have hc : c = 'v' := by
      simp only [Parts.spelled, Parts.core, hmajor, List.cons_append] at hds
      exact (List.cons_eq_cons.1 hds).1
    have hdigit : isNumeral p.major = true := isNumeral_iff.2 h.major
    rw [hmajor, hc] at hdigit
    simp [isNumeral] at hdigit
  constructor
  · intro htag
    unfold withoutTag at htag
    split at htag
    · exact .inr (by rw [htag])
    · exact .inl htag
  · rintro (rfl | rfl)
    · unfold withoutTag
      split
      · next ds hds => exact absurd hds (hv ds)
      · rfl
    · rfl

/-- Well-formed parts are found, in every text that they spell. -/
theorem split?_eq_some_iff {cs : List Char} {p : Parts} :
    split? cs = some p ↔ p.WellFormed ∧ (cs = p.spelled ∨ cs = 'v' :: p.spelled) := by
  have hprerelease : ∀ cs, isPrereleaseIdentifier cs = true → '.' ∉ cs := fun cs hcs =>
    (isPrereleaseIdentifier_iff.1 hcs).1.not_mem (by decide)
  have hbuild : ∀ cs, isBuildIdentifier cs = true → '.' ∉ cs := fun cs hcs =>
    (isBuildIdentifier_iff.1 hcs).not_mem (by decide)
  constructor
  · -- the text is cut at the first plus, and what stands before it at the first hyphen
    intro h
    unfold split? at h
    rcases hplus : cut '+' (withoutTag cs) with ⟨front, behindPlus⟩
    rcases hdash : cut '-' front with ⟨core, behindDash⟩
    simp only [hplus, hdash, Option.bind_eq_bind, Option.bind_eq_some_iff] at h
    obtain ⟨prerelease, hpre, build, hbui, h⟩ := h
    obtain ⟨-, htag⟩ := cut_eq_iff.1 hplus
    obtain ⟨-, hfront⟩ := cut_eq_iff.1 hdash
    obtain ⟨hitems, hmarked⟩ := (identifiers?_eq_some_iff hprerelease '-').1 hpre
    obtain ⟨hitems', hmarked'⟩ := (identifiers?_eq_some_iff hbuild '+').1 hbui
    split at h
    · next major minor patch hcore =>
      split at h
      · next hnumbers =>
        cases h
        simp only [Bool.and_eq_true, isNumeral_iff] at hnumbers
        obtain ⟨⟨hmajor, hminor⟩, hpatch⟩ := hnumbers
        have hwell : Parts.WellFormed ⟨major, minor, patch, prerelease, build⟩ :=
          ⟨hmajor, hminor, hpatch, fun i hi => isPrereleaseIdentifier_iff.1 (hitems i hi),
            fun i hi => isBuildIdentifier_iff.1 (hitems' i hi)⟩
        refine ⟨hwell, hwell.withoutTag_eq_iff.1 ?_⟩
        rw [htag, hfront, hmarked, hmarked', eq_core_of_splitOn hcore]
        rfl
      · cases h
    · cases h
  · -- no part holds the mark that stands behind it, so the cuts are between the parts
    rintro ⟨hwell, hcs⟩
    obtain ⟨behindDash, hmarked⟩ := exists_elim_eq_marked '-' p.prerelease
    obtain ⟨behindPlus, hmarked'⟩ := exists_elim_eq_marked '+' p.build
    have hplus : cut '+' (withoutTag cs) = (p.core ++ marked '-' p.prerelease, behindPlus) := by
      refine cut_eq_iff.2 ⟨hwell.plus_not_mem, ?_⟩
      rw [hwell.withoutTag_eq_iff.2 hcs, hmarked']
      rfl
    have hdash : cut '-' (p.core ++ marked '-' p.prerelease) = (p.core, behindDash) := by
      refine cut_eq_iff.2 ⟨hwell.not_mem_core (fun cs hcs => hcs.hyphen_not_mem) (by decide), ?_⟩
      rw [hmarked]
    have hpre : identifiers? isPrereleaseIdentifier behindDash = some p.prerelease :=
      (identifiers?_eq_some_iff hprerelease '-').2
        ⟨fun i hi => isPrereleaseIdentifier_iff.2 (hwell.prerelease i hi), hmarked⟩
    have hbui : identifiers? isBuildIdentifier behindPlus = some p.build :=
      (identifiers?_eq_some_iff hbuild '+').2
        ⟨fun i hi => isBuildIdentifier_iff.2 (hwell.build i hi), hmarked'⟩
    have hpoint : ∀ cs, IsNumber cs → '.' ∉ cs := fun cs hcs =>
      hcs.isIdentifier.not_mem (by decide)
    have hcore : p.core.splitOn '.' = [p.major, p.minor, p.patch] :=
      splitOn_core (hpoint _ hwell.major) (hpoint _ hwell.minor) (hpoint _ hwell.patch)
    unfold split?
    simp only [hplus, hdash, hpre, hbui, hcore, Option.bind_eq_bind, Option.bind_some,
      isNumeral_iff.2 hwell.major, isNumeral_iff.2 hwell.minor, isNumeral_iff.2 hwell.patch,
      Bool.and_self, if_true]

/-- A text spells parts exactly if they are found in its characters. -/
theorem spells_iff_split? {t : Text} {p : Parts} :
    Spells t p ↔ t.toChars?.bind split? = some p := by
  rw [Option.bind_eq_some_iff, Spells]
  constructor
  · rintro ⟨hwell, rfl | rfl⟩
    · exact ⟨p.spelled, Text.toChars?_map_char _, split?_eq_some_iff.2 ⟨hwell, .inl rfl⟩⟩
    · exact ⟨'v' :: p.spelled, Text.toChars?_map_char _, split?_eq_some_iff.2 ⟨hwell, .inr rfl⟩⟩
  · rintro ⟨cs, hchars, hsplit⟩
    obtain ⟨hwell, hcs⟩ := split?_eq_some_iff.1 hsplit
    rw [Text.eq_map_char_of_toChars? hchars]
    refine ⟨hwell, ?_⟩
    rcases hcs with rfl | rfl
    · exact .inl rfl
    · exact .inr rfl

/-- A text spells at most one version. -/
theorem Spells.unique {t : Text} {p q : Parts} (h : Spells t p) (h' : Spells t q) : p = q :=
  Option.some.inj ((spells_iff_split?.1 h).symm.trans (spells_iff_split?.1 h'))

end Version
end ReleaseNotes
