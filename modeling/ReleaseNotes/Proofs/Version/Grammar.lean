/-
The grammar of versions.

The expression of versions takes apart exactly the texts that spell one.  Its parts are told by the
texts that they take, and a text that the whole expression matches spells the parts that were taken.

Main statements:
* `Version.matches_numeral`, `Version.matches_prereleaseItem`, `Version.matches_buildItem`,
  `Version.matches_behindMark` — the parts of the expression;
* `Version.spells_iff` — the texts that the whole expression matches, and their parts;
* `Version.parse_outcomes` — what the reader makes of any text.
-/
import ReleaseNotes.Proofs.Text.Matching
import ReleaseNotes.Proofs.Version.Spelling

namespace ReleaseNotes
namespace Version

/-! ### The parts of the expression -/

/-- Texts of characters that pass a test. -/
theorem passing_iff {test : Char → Bool} {s : Text} :
    (∀ u ∈ s, u.passes test = true) ↔
      ∃ cs, s = Text.ofChars cs ∧ ∀ c ∈ cs, test c = true := by
  constructor
  · intro h
    induction s with
    | nil => exact ⟨[], rfl, nofun⟩
    | cons u s ih =>
      obtain ⟨cs, rfl, hcs⟩ := ih fun v hv => h v (List.mem_cons_of_mem _ hv)
      have hu := h u List.mem_cons_self
      cases u with
      | half _ | byte _ => cases hu
      | char c => exact ⟨c :: cs, rfl, List.forall_mem_cons.2 ⟨hu, hcs⟩⟩
  · rintro ⟨cs, rfl, hcs⟩ u hu
    obtain ⟨c, hc, rfl⟩ := List.mem_map.1 hu
    exact hcs c hc

theorem passes_iff {test : Char → Bool} {u : TextUnit} :
    u.passes test = true ↔ ∃ c, u = .char c ∧ test c = true := by
  cases u <;> simp [TextUnit.passes]

theorem matches_chars (test : Char → Bool) :
    (Pattern.many .nothing (·.passes test)).Matches fun s =>
      ∃ cs, s = Text.ofChars cs ∧ ∀ c ∈ cs, test c = true :=
  Pattern.matches_units.congr fun _ => passing_iff

/-- A character that passes a test, and others behind it that pass another one. -/
theorem matches_begun (first test : Char → Bool) :
    ((Pattern.unit (·.passes first)).followedBy (.many .nothing (·.passes test))).Matches fun s =>
      ∃ c cs, s = Text.ofChars (c :: cs) ∧ first c = true ∧ ∀ d ∈ cs, test d = true := by
  refine (Pattern.matches_unit.followedBy (matches_chars test)).congr fun s => ?_
  constructor
  · rintro ⟨_, _, rfl, ⟨u, hu, rfl⟩, cs, rfl, hcs⟩
    obtain ⟨c, rfl, hc⟩ := passes_iff.1 hu
    exact ⟨c, cs, rfl, hc, hcs⟩
  · rintro ⟨c, cs, rfl, hc, hcs⟩
    exact ⟨[.char c], Text.ofChars cs, rfl, ⟨.char c, hc, rfl⟩, cs, rfl, hcs⟩

theorem matches_numeral : numeral.Matches fun s => ∃ cs, s = Text.ofChars cs ∧ IsNumber cs := by
  refine ((Pattern.matches_char '0').orElse (matches_begun _ _)).congr fun s => ?_
  constructor
  · rintro (rfl | ⟨c, cs, rfl, hc, hcs⟩)
    · exact ⟨['0'], rfl, .inl rfl⟩
    · obtain ⟨hdigit, hzero⟩ := Bool.and_eq_true_iff.1 hc
      refine ⟨c :: cs, rfl, .inr ⟨by simp, ?_, by simpa using hzero⟩⟩
      intro d hd
      rcases List.mem_cons.1 hd with rfl | hd
      · exact isDigit_iff.1 hdigit
      · exact isDigit_iff.1 (hcs d hd)
  · rintro ⟨cs, rfl, rfl | ⟨hne, hdigits, hhead⟩⟩
    · exact .inl rfl
    · obtain ⟨c, cs, rfl⟩ := List.exists_cons_of_ne_nil hne
      refine .inr ⟨c, cs, rfl, ?_, fun d hd => isDigit_iff.2 (hdigits d (List.mem_cons_of_mem _ hd))⟩
      rw [Bool.and_eq_true, isDigit_iff]
      exact ⟨hdigits c List.mem_cons_self, by simpa using hhead⟩

theorem matches_buildItem :
    buildItem.Matches fun s => ∃ cs, s = Text.ofChars cs ∧ IsIdentifier cs := by
  refine (matches_begun _ _).congr fun s => ?_
  constructor
  · rintro ⟨c, cs, rfl, hc, hcs⟩
    have hall : ∀ d ∈ c :: cs, isIdentifierChar d = true := List.forall_mem_cons.2 ⟨hc, hcs⟩
    exact ⟨c :: cs, rfl, by simp, fun d hd => isIdentifierChar_iff.1 (hall d hd)⟩
  · rintro ⟨cs, rfl, hne, hletters⟩
    obtain ⟨c, cs, rfl⟩ := List.exists_cons_of_ne_nil hne
    exact ⟨c, cs, rfl, isIdentifierChar_iff.2 (hletters c List.mem_cons_self),
      fun d hd => isIdentifierChar_iff.2 (hletters d (List.mem_cons_of_mem _ hd))⟩

/-- A character of an identifier is a digit, or one that makes it no number. -/
theorem isIdentifierChar_eq (c : Char) :
    isIdentifierChar c = (c.isDigit || (c.isAlpha || c == '-')) := by
  rw [isIdentifierChar, Char.isAlphanum, Bool.or_comm c.isAlpha, Bool.or_assoc]

theorem isDigit_of_isAlpha {c : Char} (h : c.isAlpha = true) : c.isDigit = false := by
  have hletter : 0x41 ≤ c.toNat := by
    have hkind : (c.isUpper || c.isLower) = true := h
    rcases Bool.or_eq_true_iff.1 hkind with hupper | hlower
    · have hrange : 0x41 ≤ c.toNat ∧ c.toNat ≤ 0x5A := of_decide_eq_true hupper
      exact hrange.1
    · have hfirst : 0x61 ≤ c.toNat := of_decide_eq_true (Bool.and_eq_true_iff.1 hlower).1
      omega
  refine Bool.eq_false_iff.2 fun hdigit => ?_
  have hlast : c.toNat ≤ 0x39 := (Char.isDigit_iff_toNat.1 hdigit).2
  omega

theorem matches_prereleaseItem :
    prereleaseItem.Matches fun s => ∃ cs, s = Text.ofChars cs ∧ IsPrereleaseItem cs := by
  refine (matches_numeral.orElse
    ((matches_chars Char.isDigit).followedBy (matches_begun _ _))).congr fun s => ?_
  constructor
  · rintro (⟨cs, rfl, hcs⟩ | ⟨_, _, rfl, ⟨ds, rfl, hds⟩, c, cs, rfl, hc, hcs⟩)
    · exact ⟨cs, rfl, hcs.isIdentifier, fun _ => hcs⟩
    · have hdigit : c.isDigit = false := by
        rcases Bool.or_eq_true_iff.1 hc with hc | hc
        · exact isDigit_of_isAlpha hc
        · rw [beq_iff_eq.1 hc]
          rfl
      refine ⟨ds ++ c :: cs, by simp [Text.ofChars], ⟨by simp, ?_⟩, ?_⟩
      · intro d hd
        rw [← isIdentifierChar_iff, isIdentifierChar_eq]
        rcases List.mem_append.1 hd with hd | hd
        · rw [hds d hd, Bool.true_or]
        · rcases List.mem_cons.1 hd with rfl | hd
          · rw [hc, Bool.or_true]
          · rw [← isIdentifierChar_eq]
            exact hcs d hd
      · intro hall
        have := isDigit_iff.2 (hall c (by simp))
        rw [hdigit] at this
        cases this
  · rintro ⟨cs, rfl, ⟨hne, hletters⟩, hnumber⟩
    by_cases hall : ∀ c ∈ cs, IsDigit c
    · exact .inl ⟨cs, rfl, hnumber hall⟩
    -- the digits up to the first other character are taken first
    obtain ⟨c, rest, hrest⟩ : ∃ c rest, cs.dropWhile Char.isDigit = c :: rest := by
      refine List.exists_cons_of_ne_nil fun hnil => hall ?_
      exact all_isDigit_iff.1 (List.all_eq_true.2 (List.dropWhile_eq_nil_iff.1 hnil))
    have hsplit := List.takeWhile_append_dropWhile (p := Char.isDigit) (l := cs)
    have hc : c.isDigit = false := by
      have := List.head_dropWhile_not Char.isDigit (l := cs) (by simp [hrest])
      simpa [hrest] using this
    rw [hrest] at hsplit
    have hchars : ∀ d ∈ cs, isIdentifierChar d = true := fun d hd =>
      isIdentifierChar_iff.2 (hletters d hd)
    refine .inr ⟨_, _, ?_, ⟨cs.takeWhile Char.isDigit, rfl, fun d hd =>
      List.mem_takeWhile_imp hd⟩, c, rest, rfl, ?_, ?_⟩
    · rw [← Text.ofChars_append, hsplit]
    · have hletter := hchars c (by rw [← hsplit]; simp)
      rwa [isIdentifierChar_eq, hc, Bool.false_or] at hletter
    · intro d hd
      exact hchars d (by rw [← hsplit]; simp [hd])

/-! ### Items -/

section

variable {item : Pattern} {Q : List Char → Prop}

theorem exists_map_of_forall {parts : List Text} {begin : List Char → List Char}
    (h : ∀ a ∈ parts, ∃ cs, a = Text.ofChars (begin cs) ∧ Q cs) :
    ∃ items : List (List Char), (∀ cs ∈ items, Q cs) ∧
      parts.flatten = Text.ofChars (items.flatMap begin) := by
  induction parts with
  | nil => exact ⟨[], nofun, rfl⟩
  | cons a parts ih =>
    obtain ⟨cs, rfl, hcs⟩ := h a List.mem_cons_self
    obtain ⟨items, hitems, hflatten⟩ := ih fun b hb => h b (List.mem_cons_of_mem _ hb)
    refine ⟨cs :: items, List.forall_mem_cons.2 ⟨hcs, hitems⟩, ?_⟩
    rw [List.flatten_cons, hflatten, List.flatMap_cons, Text.ofChars_append]

/-- Items joined by points: the first one, and the others each behind a point. -/
theorem intercalate_cons (first : List Char) (items : List (List Char)) :
    ['.'].intercalate (first :: items) = first ++ items.flatMap ('.' :: ·) := by
  induction items generalizing first with
  | nil => simp
  | cons second items ih => rw [List.intercalate_cons_cons, ih, List.flatMap_cons]; simp

theorem matches_joined (h : item.Matches fun s => ∃ cs, s = Text.ofChars cs ∧ Q cs) :
    (joined item).Matches fun s => ∃ items : List (List Char), items ≠ [] ∧
      s = Text.ofChars (['.'].intercalate items) ∧ ∀ cs ∈ items, Q cs := by
  have hpoint : ((Pattern.char '.').followedBy item).Matches fun s =>
      ∃ cs, s = Text.ofChars ('.' :: cs) ∧ Q cs := by
    refine ((Pattern.matches_char '.').followedBy h).congr fun s => ?_
    constructor
    · rintro ⟨_, _, rfl, rfl, cs, rfl, hcs⟩
      exact ⟨cs, rfl, hcs⟩
    · rintro ⟨cs, rfl, hcs⟩
      exact ⟨[.char '.'], Text.ofChars cs, rfl, rfl, cs, rfl, hcs⟩
  have hne : ∀ s, (∃ cs, s = Text.ofChars ('.' :: cs) ∧ Q cs) → s ≠ [] := by
    rintro _ ⟨cs, rfl, -⟩
    nofun
  refine (h.followedBy (hpoint.star hne)).congr fun s => ?_
  constructor
  · rintro ⟨_, _, rfl, ⟨first, rfl, hfirst⟩, parts, hparts, rfl⟩
    obtain ⟨items, hitems, hflatten⟩ := exists_map_of_forall hparts
    refine ⟨first :: items, by simp, ?_, List.forall_mem_cons.2 ⟨hfirst, hitems⟩⟩
    rw [hflatten, intercalate_cons, Text.ofChars_append]
  · rintro ⟨items, hitems, rfl, hQ⟩
    obtain ⟨first, items, rfl⟩ := List.exists_cons_of_ne_nil hitems
    obtain ⟨hfirst, hothers⟩ := List.forall_mem_cons.1 hQ
    refine ⟨Text.ofChars first, Text.ofChars (items.flatMap ('.' :: ·)), ?_, ⟨first, rfl, hfirst⟩,
      items.map fun cs => Text.ofChars ('.' :: cs), ?_, ?_⟩
    · rw [intercalate_cons, Text.ofChars_append]
    · intro a ha
      obtain ⟨cs, hcs, rfl⟩ := List.mem_map.1 ha
      exact ⟨cs, rfl, hothers cs hcs⟩
    · rw [Text.ofChars, List.map_flatMap, List.flatMap]
      rfl

theorem matches_behindMark (mark : Char)
    (h : item.Matches fun s => ∃ cs, s = Text.ofChars cs ∧ Q cs) :
    (behindMark mark item).Matches fun s => ∃ items : List (List Char),
      s = Text.ofChars (marked mark items) ∧ ∀ cs ∈ items, Q cs := by
  refine ((Pattern.matches_char mark).followedBy (matches_joined h)).optional.congr fun s => ?_
  constructor
  · rintro (⟨_, _, rfl, rfl, items, hne, rfl, hitems⟩ | rfl)
    · refine ⟨items, ?_, hitems⟩
      rw [marked, if_neg hne]
      rfl
    · exact ⟨[], rfl, List.forall_mem_nil _⟩
  · rintro ⟨items, rfl, hitems⟩
    by_cases hne : items = []
    · rw [marked, if_pos hne]
      exact .inr rfl
    · rw [marked, if_neg hne]
      exact .inl ⟨[.char mark], Text.ofChars (['.'].intercalate items), rfl, rfl, items, hne, rfl,
        hitems⟩

theorem charsOf_append (cs : List Char) (rest : Text) :
    charsOf (Text.ofChars cs ++ rest) rest = cs := by
  rw [charsOf, Pattern.taken_append, Text.filterMap_char?_ofChars]

/-- What was taken of joined items is taken apart into these items. -/
theorem itemsOf_marked (hpoint : ∀ cs, Q cs → '.' ∉ cs) (mark : Char) {items : List (List Char)}
    (hitems : ∀ cs ∈ items, Q cs) (rest : Text) :
    itemsOf (Text.ofChars (marked mark items) ++ rest) rest = items := by
  rw [itemsOf, charsOf_append]
  by_cases hne : items = []
  · rw [marked, if_pos hne, hne]
  · rw [marked, if_neg hne]
    exact List.splitOn_intercalate '.' (fun cs hcs => hpoint cs (hitems cs hcs)) hne

end

/-! ### The whole expression -/

theorem IsPrereleaseItem.point_not_mem {cs : List Char} (h : IsPrereleaseItem cs) : '.' ∉ cs :=
  h.1.not_mem (by decide)

theorem IsIdentifier.point_not_mem {cs : List Char} (h : IsIdentifier cs) : '.' ∉ cs :=
  h.not_mem (by decide)

theorem spells_of_match? {t : Text} {p : Parts} (h : match? t = some p) : Spells t p := by
  obtain ⟨t₁, ht₁, h⟩ := List.exists_of_findSome?_eq_some h
  obtain ⟨r₁, hr₁, h⟩ := List.exists_of_findSome?_eq_some h
  obtain ⟨t₂, ht₂, h⟩ := List.exists_of_findSome?_eq_some h
  obtain ⟨r₂, hr₂, h⟩ := List.exists_of_findSome?_eq_some h
  obtain ⟨t₃, ht₃, h⟩ := List.exists_of_findSome?_eq_some h
  obtain ⟨r₃, hr₃, h⟩ := List.exists_of_findSome?_eq_some h
  obtain ⟨t₄, ht₄, h⟩ := List.exists_of_findSome?_eq_some h
  obtain ⟨rest, hrest, h⟩ := List.exists_of_findSome?_eq_some h
  split at h
  · next hend =>
    -- each part is what its pattern took
    obtain ⟨_, ⟨major, rfl, hmajor⟩, rfl⟩ := (matches_numeral t₁ r₁).1 hr₁
    obtain rfl := Pattern.mem_char.1 ht₂
    obtain ⟨_, ⟨minor, rfl, hminor⟩, rfl⟩ := (matches_numeral t₂ r₂).1 hr₂
    obtain rfl := Pattern.mem_char.1 ht₃
    obtain ⟨_, ⟨patch, rfl, hpatch⟩, rfl⟩ := (matches_numeral t₃ r₃).1 hr₃
    obtain ⟨_, ⟨prerelease, rfl, hprerelease⟩, rfl⟩ :=
      (matches_behindMark '-' matches_prereleaseItem r₃ t₄).1 ht₄
    obtain ⟨_, ⟨build, rfl, hbuild⟩, rfl⟩ :=
      (matches_behindMark '+' matches_buildItem t₄ rest).1 hrest
    subst hend
    rw [charsOf_append, charsOf_append, charsOf_append,
      itemsOf_marked (fun _ => IsPrereleaseItem.point_not_mem) '-' hprerelease,
      itemsOf_marked (fun _ => IsIdentifier.point_not_mem) '+' hbuild] at h
    cases h
    refine ⟨⟨hmajor, hminor, hpatch, hprerelease, hbuild⟩, ?_⟩
    rcases Pattern.mem_optional.1 ht₁ with ht₁ | rfl
    · refine .inr ?_
      rw [Pattern.mem_char.1 ht₁]
      simp [Parts.spelled, Parts.core, Text.ofChars]
    · exact .inl (by simp [Parts.spelled, Parts.core, Text.ofChars])
  · cases h

theorem Spells.match?_isSome {t : Text} {p : Parts} (h : Spells t p) :
    (match? t).isSome = true := by
  obtain ⟨hwell, ht⟩ := h
  have hspelled : Text.ofChars p.spelled = Text.ofChars p.major ++ .char '.' ::
      (Text.ofChars p.minor ++ .char '.' :: (Text.ofChars p.patch ++
        (Text.ofChars (marked '-' p.prerelease) ++ (Text.ofChars (marked '+' p.build) ++ [])))) := by
    simp [Parts.spelled, Parts.core, Text.ofChars]
  have htag : Text.ofChars p.spelled ∈ (Pattern.char 'v').optional t := by
    rw [Pattern.mem_optional, Pattern.mem_char]
    rcases ht with rfl | rfl
    · exact .inr rfl
    · exact .inl rfl
  rw [hspelled] at htag
  simp only [match?, List.isSome_findSome?, List.any_eq_true]
  exact ⟨_, htag, _, (matches_numeral _ _).2 ⟨_, ⟨_, rfl, hwell.major⟩, rfl⟩,
    _, Pattern.mem_char.2 rfl, _, (matches_numeral _ _).2 ⟨_, ⟨_, rfl, hwell.minor⟩, rfl⟩,
    _, Pattern.mem_char.2 rfl, _, (matches_numeral _ _).2 ⟨_, ⟨_, rfl, hwell.patch⟩, rfl⟩,
    _, (matches_behindMark '-' matches_prereleaseItem _ _).2 ⟨_, ⟨_, rfl, hwell.prerelease⟩, rfl⟩,
    _, (matches_behindMark '+' matches_buildItem _ _).2 ⟨_, ⟨_, rfl, hwell.build⟩, rfl⟩, rfl⟩

/-- A text spells parts exactly if the expression matches the whole of it with these parts. -/
theorem spells_iff {t : Text} {p : Parts} : Spells t p ↔ match? t = some p := by
  refine ⟨fun h => ?_, spells_of_match?⟩
  obtain ⟨q, hq⟩ := Option.isSome_iff_exists.1 h.match?_isSome
  rw [hq, h.unique (spells_of_match? hq)]

/-! ### Reading -/

theorem number_of_le {cs : List Char} (h : cs.length ≤ Numeral.maxDigits) :
    number cs = .ok (Numeral.value cs) := by
  rw [number, if_neg (Nat.not_lt.2 h)]

theorem number_of_lt {cs : List Char} (h : Numeral.maxDigits < cs.length) :
    number cs = .error (.reading cs.length) := by
  rw [number, if_pos h]

theorem ofParts_of_isShort {p : Parts} (h : p.IsShort) : ofParts p = .ok p.version := by
  obtain ⟨hmajor, hminor, hpatch⟩ := h
  rw [ofParts, number_of_le hmajor, number_of_le hminor, number_of_le hpatch]
  rfl

/-- The first number that is too long is refused. -/
theorem ofParts_of_not_isShort {p : Parts} (h : ¬ p.IsShort) :
    ∃ limit, ofParts p = .error limit := by
  by_cases hmajor : p.major.length ≤ Numeral.maxDigits
  · by_cases hminor : p.minor.length ≤ Numeral.maxDigits
    · have hpatch : Numeral.maxDigits < p.patch.length :=
        Nat.lt_of_not_le fun hpatch => h ⟨hmajor, hminor, hpatch⟩
      refine ⟨.reading p.patch.length, ?_⟩
      rw [ofParts, number_of_le hmajor, number_of_le hminor, number_of_lt hpatch]
      rfl
    · refine ⟨.reading p.minor.length, ?_⟩
      rw [ofParts, number_of_le hmajor, number_of_lt (Nat.lt_of_not_le hminor)]
      rfl
  · refine ⟨.reading p.major.length, ?_⟩
    rw [ofParts, number_of_lt (Nat.lt_of_not_le hmajor)]
    rfl

theorem parse_of_spells {t : Text} {p : Parts} (h : Spells t p) (hshort : p.IsShort) :
    parse t = .ok p.version := by
  rw [parse, spells_iff.1 h]
  show (ofParts p).mapError Failure.numeral = _
  rw [ofParts_of_isShort hshort]
  rfl

theorem parse_of_spells_long {t : Text} {p : Parts} (h : Spells t p) (hlong : ¬ p.IsShort) :
    ∃ limit, parse t = .error (.numeral limit) := by
  obtain ⟨limit, hlimit⟩ := ofParts_of_not_isShort hlong
  refine ⟨limit, ?_⟩
  rw [parse, spells_iff.1 h]
  show (ofParts p).mapError Failure.numeral = _
  rw [hlimit]
  rfl

theorem parse_of_not_spells {t : Text} (h : ¬ ∃ p, Spells t p) :
    parse t = .error (.invalidVersion (.str t)) := by
  have hnone : match? t = none := by
    rw [Option.eq_none_iff_forall_ne_some]
    exact fun p hp => h ⟨p, spells_iff.2 hp⟩
  rw [parse, hnone]

/-- What the reader makes of a text.  A text that spells a version is read as the version with its
parts if its numbers are short enough; if one of them is too long, it fails to be read as a number;
and any other text is no version. -/
theorem parse_outcomes (t : Text) :
    (∀ v, parse t = .ok v ↔ ∃ p, Spells t p ∧ p.IsShort ∧ v = p.version) ∧
      ((∃ f, parse t = .error f ∧ f.kind = .invalidVersion) ↔ ¬ ∃ p, Spells t p) ∧
      ((∃ f, parse t = .error f ∧ f.kind = .value) ↔ ∃ p, Spells t p ∧ ¬ p.IsShort) := by
  -- a text spells at most one version, so the three outcomes exclude each other
  by_cases hspells : ∃ p, Spells t p
  · obtain ⟨p, hp⟩ := hspells
    by_cases hshort : p.IsShort
    · have hparse := parse_of_spells hp hshort
      refine ⟨fun v => ⟨fun h => ?_, ?_⟩, ⟨?_, fun h => absurd ⟨p, hp⟩ h⟩, ⟨?_, ?_⟩⟩
      · rw [hparse] at h
        cases h
        exact ⟨p, hp, hshort, rfl⟩
      · rintro ⟨q, hq, -, rfl⟩
        rw [hq.unique hp, hparse]
      · rintro ⟨f, hf, -⟩
        rw [hparse] at hf
        cases hf
      · rintro ⟨f, hf, -⟩
        rw [hparse] at hf
        cases hf
      · rintro ⟨q, hq, hlong⟩
        rw [hq.unique hp] at hlong
        exact absurd hshort hlong
    · obtain ⟨limit, hparse⟩ := parse_of_spells_long hp hshort
      refine ⟨fun v => ⟨fun h => ?_, ?_⟩, ⟨?_, fun h => absurd ⟨p, hp⟩ h⟩,
        fun _ => ⟨p, hp, hshort⟩, fun _ => ⟨_, hparse, rfl⟩⟩
      · rw [hparse] at h
        cases h
      · rintro ⟨q, hq, hqshort, -⟩
        rw [hq.unique hp] at hqshort
        exact absurd hqshort hshort
      · rintro ⟨f, hf, hkind⟩
        rw [hparse] at hf
        cases hf
        cases hkind
  · have hparse := parse_of_not_spells hspells
    refine ⟨fun v => ⟨fun h => ?_, ?_⟩, ⟨fun _ => hspells, fun _ => ⟨_, hparse, rfl⟩⟩,
      ⟨?_, ?_⟩⟩
    · rw [hparse] at h
      cases h
    · rintro ⟨q, hq, -⟩
      exact absurd ⟨q, hq⟩ hspells
    · rintro ⟨f, hf, hkind⟩
      rw [hparse] at hf
      cases hf
      cases hkind
    · rintro ⟨q, hq, -⟩
      exact absurd ⟨q, hq⟩ hspells

example : (parse "v1.20.3--.0-x+001").toOption = some ⟨1, 20, 3, ["-", "0-x"], ["001"]⟩ := by
  decide +kernel

end Version
end ReleaseNotes
