/-
Writing versions and reading them back.

A version whose numbers are short and whose identifiers follow the grammar is read back from its
text.  Conversely a text that is read is the text of the version that it is read as, perhaps behind
a `v`; so two texts of one version differ in the `v` at most.

Main statements:
* `Version.IsNumber.digits_value`, `Version.isNumber_digits` — numbers and their spelling;
* `Version.WellFormed` — the versions that can be read;
* `Version.parts`, `Version.spelled_parts` — the parts of a version, and how it is written;
* `Version.parse_eq_ok_iff` — which texts are read as a version;
* `Version.parse_text_inverse` — writing and reading are inverse to each other.
-/
import Mathlib.Data.List.Induction
import ReleaseNotes.Proofs.Version.Grammar

namespace ReleaseNotes
namespace Version

/-! ### Numbers and their digits -/

theorem digit_digitValue {c : Char} (h : IsDigit c) : Numeral.digit (Numeral.digitValue c) = c := by
  obtain ⟨hlow, hhigh⟩ := h
  have hlow' : 48 ≤ c.toNat := UInt32.le_iff_toNat_le.1 hlow
  have hhigh' : c.toNat ≤ 57 := UInt32.le_iff_toNat_le.1 hhigh
  have hmod : 48 + (c.toNat - 48) % 10 = c.toNat := by omega
  rw [Numeral.digit, Numeral.digitValue, hmod, Char.ofNat_toNat]

theorem digits_zero : Numeral.digits 0 = ['0'] := Numeral.digits_of_lt (by decide)

theorem isNumber_digits (n : Nat) : IsNumber (Numeral.digits n) := by
  by_cases hn : n = 0
  · subst hn
    exact .inl digits_zero
  · refine .inr ⟨Numeral.digits_ne_nil n, fun c hc => ?_, Numeral.digits_head (by omega)⟩
    exact isDigit_iff.1 (Numeral.isDigit_of_mem_digits hc)

/-- Digits that do not begin with zero are those of their value. -/
theorem digits_value_of_head {cs : List Char} (hne : cs ≠ []) (hdigits : ∀ c ∈ cs, IsDigit c)
    (hhead : cs.head? ≠ some '0') : Numeral.digits (Numeral.value cs) = cs := by
  -- the last digit is the value modulo ten, the digits before it have a value that is not zero
  induction cs using List.reverseRecOn with
  | nil => exact absurd rfl hne
  | append_singleton ds c ih =>
    have hc : IsDigit c := hdigits c (by simp)
    have hback := digit_digitValue hc
    have hvalue : Numeral.digitValue c < 10 := by
      have h : Numeral.digitValue (Numeral.digit (Numeral.digitValue c)) = _ :=
        Numeral.digitValue_digit _
      rw [hback] at h
      omega
    by_cases hds : ds = []
    · subst hds
      have hone : Numeral.value ([] ++ [c]) = Numeral.digitValue c := by
        rw [Numeral.value_append_singleton]
        simp [Numeral.value]
      rw [hone, Numeral.digits_of_lt hvalue, hback, List.nil_append]
    · have hheadDs : ds.head? ≠ some '0' := by
        obtain ⟨d, rest, rfl⟩ := List.exists_cons_of_ne_nil hds
        simpa using hhead
      have hds' := ih hds (fun d hd => hdigits d (by simp [hd])) hheadDs
      have hpos : Numeral.value ds ≠ 0 := by
        intro h0
        rw [h0] at hds'
        exact hheadDs (by rw [← hds', digits_zero]; rfl)
      have hmod : Numeral.digit (10 * Numeral.value ds + Numeral.digitValue c) = c := by
        have h : (10 * Numeral.value ds + Numeral.digitValue c) % 10 =
            Numeral.digitValue c % 10 := by
          omega
        rw [Numeral.digit, h]
        exact hback
      have hdiv : (10 * Numeral.value ds + Numeral.digitValue c) / 10 = Numeral.value ds := by
        omega
      rw [Numeral.value_append_singleton, Numeral.digits_of_ge (by omega), hmod, hdiv, hds']

theorem IsNumber.digits_value {cs : List Char} (h : IsNumber cs) :
    Numeral.digits (Numeral.value cs) = cs := by
  rcases h with rfl | ⟨hne, hdigits, hhead⟩
  · exact digits_zero
  · exact digits_value_of_head hne hdigits hhead

/-! ### The parts of a version -/

/-- The numbers of the version are short enough to be written, and its identifiers follow the
grammar. -/
structure WellFormed (v : Version) : Prop where
  short : ∀ n ∈ v.core, (Numeral.digits n).length ≤ Numeral.maxDigits
  prerelease : ∀ i ∈ v.prerelease, IsPrereleaseItem i.toList
  build : ∀ i ∈ v.build, IsIdentifier i.toList

/-- The parts that a version is written with. -/
def parts (v : Version) : Parts :=
  ⟨Numeral.digits v.major, Numeral.digits v.minor, Numeral.digits v.patch,
    v.prerelease.map String.toList, v.build.map String.toList⟩

theorem version_parts (v : Version) : v.parts.version = v := by
  simp [parts, Parts.version, Function.comp_def]

theorem parts_version {p : Parts} (h : p.WellFormed) : p.version.parts = p := by
  simp [parts, Parts.version, Function.comp_def, h.major.digits_value, h.minor.digits_value,
    h.patch.digits_value]

theorem wellFormed_iff {v : Version} : v.WellFormed ↔ v.parts.WellFormed ∧ v.parts.IsShort := by
  constructor
  · intro h
    refine ⟨⟨isNumber_digits _, isNumber_digits _, isNumber_digits _, ?_, ?_⟩, ?_⟩
    · simpa [parts] using h.prerelease
    · simpa [parts] using h.build
    · simpa [core, parts, Parts.IsShort] using h.short
  · rintro ⟨hwell, hshort⟩
    refine ⟨?_, ?_, ?_⟩
    · simpa [core, parts, Parts.IsShort] using hshort
    · simpa [parts] using hwell.prerelease
    · simpa [parts] using hwell.build

theorem isWritable_iff {v : Version} :
    v.isWritable = true ↔ ∀ n ∈ v.core, (Numeral.digits n).length ≤ Numeral.maxDigits := by
  simp [isWritable]

theorem spelled_parts (v : Version) : v.parts.spelled = v.chars := by
  have hmarked : ∀ (mark : Char) (items : List String),
      marked mark (items.map String.toList) =
        if items = [] then [] else mark :: dotted items := by
    intro mark items
    simp [marked, dotted]
  rw [Parts.spelled, chars]
  show _ ++ marked '-' (v.prerelease.map String.toList) ++
    marked '+' (v.build.map String.toList) = _
  rw [hmarked, hmarked]
  simp [parts, Parts.core, core, List.intercalate, List.intersperse]

theorem text_of_wellFormed {v : Version} (h : v.WellFormed) : v.text = .ok v.print := by
  rw [text, if_pos (isWritable_iff.2 h.short)]

theorem ofString_print (v : Version) : Text.ofString v.print = Text.ofChars v.parts.spelled := by
  rw [spelled_parts, Text.ofString, print, String.toList_ofList]

/-! ### Writing and reading -/

/-- What is read are the texts that spell short parts, as the version with these parts. -/
theorem parse_eq_ok_iff_spells {t : Text} {v : Version} :
    parse t = .ok v ↔ ∃ p, Spells t p ∧ p.IsShort ∧ p.version = v := by
  constructor
  · intro h
    by_cases hspells : ∃ p, Spells t p
    · obtain ⟨p, hp⟩ := hspells
      by_cases hshort : p.IsShort
      · rw [parse_of_spells hp hshort] at h
        exact ⟨p, hp, hshort, Except.ok.inj h⟩
      · obtain ⟨limit, hparse⟩ := parse_of_spells_long hp hshort
        rw [hparse] at h
        cases h
    · rw [parse_of_not_spells hspells] at h
      cases h
  · rintro ⟨p, hp, hshort, rfl⟩
    exact parse_of_spells hp hshort

/-- A text that the expression matches as the parts of a version is read as this version. -/
theorem parse_of_match? {t : Text} {v : Version} (h : match? t = some v.parts)
    (hshort : v.isWritable = true) : parse t = .ok v := by
  have hparts : v.parts.IsShort := by
    simpa [core, parts, Parts.IsShort] using isWritable_iff.1 hshort
  exact parse_eq_ok_iff_spells.2 ⟨_, spells_iff.2 h, hparts, version_parts v⟩

/-- A text is read as a version exactly if the version is well formed and the text is its own,
perhaps behind a `v`. -/
theorem parse_eq_ok_iff {t : Text} {v : Version} :
    parse t = .ok v ↔
      v.WellFormed ∧ (t = Text.ofString v.print ∨ t = .char 'v' :: Text.ofString v.print) := by
  rw [parse_eq_ok_iff_spells, ofString_print]
  constructor
  · rintro ⟨p, ⟨hwell, ht⟩, hshort, rfl⟩
    rw [wellFormed_iff, parts_version hwell]
    exact ⟨⟨hwell, hshort⟩, ht⟩
  · rintro ⟨hv, ht⟩
    obtain ⟨hwell, hshort⟩ := wellFormed_iff.1 hv
    exact ⟨v.parts, ⟨hwell, ht⟩, hshort, version_parts v⟩

theorem parse_print {v : Version} (h : v.WellFormed) : parse v.print = .ok v :=
  parse_eq_ok_iff.2 ⟨h, .inl rfl⟩

/-- The text behind one leading `v`, if there is one. -/
def untagged : Text → Text
  | .char 'v' :: t => t
  | t => t

theorem untagged_ofChars (cs : List Char) :
    untagged (Text.ofChars cs) = Text.ofChars (withoutTag cs) := by
  cases cs with
  | nil => rfl
  | cons c cs =>
    by_cases hc : c = 'v'
    · subst hc
      rfl
    · have htag : withoutTag (c :: cs) = c :: cs := by
        unfold withoutTag
        split
        · next heq => exact absurd (List.cons_eq_cons.1 heq).1 hc
        · rfl
      rw [htag]
      unfold untagged
      split
      · next heq => exact absurd (TextUnit.char.inj (List.cons_eq_cons.1 heq).1) hc
      · rfl

theorem untagged_print {v : Version} (h : v.WellFormed) : untagged v.print = v.print := by
  have htag : withoutTag v.parts.spelled = v.parts.spelled :=
    (wellFormed_iff.1 h).1.withoutTag_eq_iff.2 (.inl rfl)
  rw [ofString_print, untagged_ofChars, htag]

theorem head?_print {v : Version} (h : v.WellFormed) :
    (Text.ofString v.print).head? ≠ some (.char 'v') := by
  intro hhead
  obtain ⟨t, ht⟩ := List.head?_eq_some_iff.1 hhead
  have huntagged := untagged_print h
  rw [ht] at huntagged
  have hlength : t.length = (TextUnit.char 'v' :: t).length := congrArg List.length huntagged
  simp at hlength

/-- A text that is read is the text of the version, but for its leading `v`. -/
theorem untagged_of_parse {t : Text} {v : Version} (h : parse t = .ok v) :
    untagged t = v.print := by
  obtain ⟨hv, rfl | rfl⟩ := parse_eq_ok_iff.1 h
  · exact untagged_print hv
  · rfl

/-- Writing and reading are inverse to each other.  A well-formed version is read back from its
text; a text that is read is, without its leading `v`, the text of the version, which is well
formed; and two texts that are read as one version differ in the `v` at most. -/
theorem parse_text_inverse :
    (∀ v : Version, v.WellFormed → ∃ s : String, v.text = .ok s ∧ parse s = .ok v) ∧
      (∀ (t : Text) (v : Version), parse t = .ok v →
        v.WellFormed ∧ ∃ s : String, v.text = .ok s ∧ untagged t = s) ∧
      ∀ (t t' : Text) (v : Version), parse t = .ok v → parse t' = .ok v →
        untagged t = untagged t' := by
  refine ⟨fun v hv => ?_, fun t v ht => ?_, fun t t' v ht ht' => ?_⟩
  · exact ⟨v.print, text_of_wellFormed hv, parse_print hv⟩
  · obtain ⟨hv, -⟩ := parse_eq_ok_iff.1 ht
    exact ⟨hv, v.print, text_of_wellFormed hv, untagged_of_parse ht⟩
  · rw [untagged_of_parse ht, untagged_of_parse ht']

/-- A candidate whose identifiers hold digits and hyphens, of a build with a leading zero. -/
def candidate : Version := ⟨1, 20, 3, ["-", "0-x", "10"], ["001"]⟩

theorem parse_text_inverse_candidate :
    candidate.WellFormed ∧ parse "1.20.3--.0-x.10+001" = .ok candidate ∧
      parse "v1.20.3--.0-x.10+001" = .ok candidate ∧
      (∃ s : String, candidate.text = .ok s ∧ parse s = .ok candidate) ∧
      (∃ s : String, candidate.text = .ok s ∧ untagged "v1.20.3--.0-x.10+001" = s) ∧
      untagged "v1.20.3--.0-x.10+001" = untagged "1.20.3--.0-x.10+001" := by
  have hplain : parse "1.20.3--.0-x.10+001" = .ok candidate :=
    parse_of_match? (by decide +kernel) (by decide +kernel)
  have htagged : parse "v1.20.3--.0-x.10+001" = .ok candidate :=
    parse_of_match? (by decide +kernel) (by decide +kernel)
  obtain ⟨hread, hwritten, hsame⟩ := parse_text_inverse
  obtain ⟨hwell, htext⟩ := hwritten _ _ htagged
  exact ⟨hwell, hplain, htagged, hread _ hwell, htext, hsame _ _ _ htagged hplain⟩

end Version
end ReleaseNotes
