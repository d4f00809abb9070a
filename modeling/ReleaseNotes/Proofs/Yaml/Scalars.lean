/-
What scalars are refused for.

A value is built from a scalar by its tag.  If the tag is the one that the text of the scalar calls
for, at most a number or a day is wrong in it, and that is a failure of a value, unless a number has
so many parts that one of them counts more than any number.  A tag that is given may fit nothing,
and then other failures come out of the building.

Main statements:
* `Fault.IsValue`, `Fault.IsKnown` — what a value is refused for;
* `Scalar.ends_number` — a number;
* `Scalar.ends_value`, `Scalar.ends_value_of_fits` — a scalar with any tag, and with its usual one.
-/
import Mathlib.Algebra.GroupWithZero.Nat
import Mathlib.Algebra.Order.Monoid.Unbundled.Pow
import Mathlib.Data.List.TakeWhile
import Mathlib.Tactic.Common
import ReleaseNotes.Proofs.Yaml.Nodes
import ReleaseNotes.Yaml.Scalar

namespace ReleaseNotes
namespace Yaml

variable {P : Fault → Prop}

/-- A text is malformed, or a value in it is wrong. -/
def Fault.IsValue : Fault → Prop
  | .malformed => True
  | .unbuildable f => f.kind = .value

/-- What comes out of the building of a value besides a failure of the value. -/
def strayKinds : List FailureKind :=
  [.recursion, .other "OverflowError", .key, .index, .member, .type]

/-- A text is malformed, or a value in it is wrong, or something else comes out of its building. -/
def Fault.IsKnown : Fault → Prop
  | .malformed => True
  | .unbuildable f => f.kind = .value ∨ f.kind ∈ strayKinds

theorem Fault.IsValue.isKnown : ∀ {fault : Fault}, fault.IsValue → fault.IsKnown
  | .malformed, _ => trivial
  | .unbuildable _, h => .inl h

/-! ### Numbers -/

namespace Scalar

variable {t : Text}

theorem ends_integerTo (base : Nat) (t : Text) :
    Ends Fault.IsValue (fun _ => True) (integerTo base t) := by
  unfold integerTo
  split
  · exact .error rfl
  · split
    dsimp only
    split
    · exact .error rfl
    · split
      · exact .error rfl
      · split
        · exact .error rfl
        · exact .ok trivial

/-- What a text is without its sign. -/
structure IsUnsigned (t body : Text) : Prop where
  suffix : body <:+ t
  mem : ∀ u ∈ t, u = .char '-' ∨ u = .char '+' ∨ u ∈ body

/-- Only a text without any unit has no sign. -/
theorem ends_signed (hindex : t = [] → ∀ f, f.kind = .index → P (.unbuildable f)) :
    Ends P (fun r => IsUnsigned t r.2) (signed t) := by
  unfold signed
  split
  · exact .error (hindex rfl _ rfl)
  · exact .ok ⟨List.suffix_cons _ _, fun u hu =>
      (List.mem_cons.1 hu).elim .inl fun hu => .inr (.inr hu)⟩
  · exact .ok ⟨List.suffix_cons _ _, fun u hu =>
      (List.mem_cons.1 hu).elim (fun h => .inr (.inl h)) fun hu => .inr (.inr hu)⟩
  · exact .ok ⟨List.suffix_rfl, fun u hu => .inr (.inr hu)⟩

theorem mem_withoutJoints {u : TextUnit} (hu : u ∈ t) (hjoint : u ≠ .char '_') :
    u ∈ withoutJoints t := List.mem_filter.2 ⟨hu, by simpa using hjoint⟩

/-- An integer is wrong, or there is nothing in it but signs and joints. -/
theorem ends_integer (hvalue : ∀ fault, fault.IsValue → P fault)
    (hindex : (∀ u ∈ t, u = .char '_' ∨ u = .char '-' ∨ u = .char '+') →
      ∀ f, f.kind = .index → P (.unbuildable f)) : Ends P (fun _ => True) (integer t) := by
  have hto : ∀ (base : Nat) (t : Text), Ends P (fun _ => True) (integerTo base t) := fun base t =>
    (ends_integerTo base t).mono hvalue fun _ => id
  have hsigned : Ends P (fun r => IsUnsigned (withoutJoints t) r.2)
      (signed (withoutJoints t)) := ends_signed fun hnil => hindex fun u hu =>
    .inl (by_contra fun hjoint => by simpa [hnil] using mem_withoutJoints hu hjoint)
  refine hsigned.bind fun (negative, body) hbody => ?_
  have hsign : ∀ {x : Except Fault Int}, Ends P (fun _ => True) x →
      Ends P (fun _ => True) (do
        let magnitude ← x
        return withSign negative magnitude) := fun hx => hx.bind fun _ _ => .ok trivial
  dsimp only
  split
  · -- there is nothing behind the sign
    refine .error (hindex (fun u hu => ?_) _ rfl)
    by_cases hjoint : u = .char '_'
    · exact .inl hjoint
    · rcases hbody.mem u (mem_withoutJoints hu hjoint) with h | h | h
      · exact .inr (.inl h)
      · exact .inr (.inr h)
      · cases h
  · exact .ok trivial
  · exact hsign (hto _ _)
  · exact hsign (hto _ _)
  · exact hsign (hto _ _)
  · split
    · exact hsign ((Ends.mapM fun _ _ => hto _ _).map fun _ _ => trivial)
    · exact hsign (hto _ _)

theorem ends_numberOf (t : Text) : Ends Fault.IsValue (fun _ => True) (numberOf t) := by
  unfold numberOf
  split
  · exact .ok trivial
  · exact .error rfl

/-- A number of many parts is refused if one of them counts more than any number. -/
theorem ends_withSixtieths {sum : Float} {weight : Nat} {parts : List Float}
    (h : ∀ k < parts.length, Decimal.wholeLimit ≤ 60 ^ k * weight →
      ∀ f : Failure, f.kind = .other "OverflowError" → P (.unbuildable f)) :
    Ends P (fun _ => True) (withSixtieths sum weight parts) := by
  induction parts generalizing sum weight with
  | nil => exact .ok trivial
  | cons part parts ih =>
    have hweight : Ends P (fun _ => True) (weightOf weight) := by
      unfold weightOf
      split
      · next hlimit => exact .error (h 0 (Nat.succ_pos _) (by simpa using hlimit) _ rfl)
      · exact .ok trivial
    rw [withSixtieths]
    refine hweight.bind fun counted _ => ih fun k hk hlimit => h (k + 1) (Nat.succ_lt_succ hk) ?_
    rwa [Nat.pow_succ, Nat.mul_assoc]

theorem length_splitOn (t : Text) (u : TextUnit) : (t.splitOn u).length = t.count u + 1 := by
  induction t with
  | nil => rfl
  | cons v t ih =>
    rw [List.splitOn] at ih ⊢
    rw [List.splitOnP_cons_eq_if_modifyHead]
    by_cases hv : v = u
    · simp [hv, ih]
    · simp [hv, ih, List.length_modifyHead]

/-! ### Small letters -/

theorem lowered_ne_nil (h : t ≠ []) : t.lowered ≠ [] := by
  obtain ⟨u, t, rfl⟩ := List.exists_cons_of_ne_nil h
  unfold Text.lowered SmallLetter.lowerBehind
  dsimp only
  refine List.append_ne_nil_of_left_ne_nil ?_ _
  split
  · split <;> simp
  · next c _ =>
    unfold smallsOf
    split
    · simp [Text.ofChars]
    · split
      · simp [Text.ofChars]
      · split <;> simp [Text.ofChars]
  · simp

/-- No run of letters has small letters before the colon. -/
theorem colon_lt_of_shift? {n : Nat} {shift : Int} (h : SmallLetter.shift? n = some shift) :
    58 < n + shift := by
  have hruns : ∀ run ∈ SmallLetter.runs, (58 : Int) < run.1 + run.2.2.2 := by decide +kernel
  obtain ⟨⟨first, last, step, shift⟩, hfind, rfl⟩ := Option.map_eq_some_iff.1 h
  have hfirst : first ≤ n := by
    have hin := List.find?_some hfind
    simp only [Bool.and_eq_true, decide_eq_true_eq] at hin
    exact hin.1.1
  have hcolon := hruns _ (List.mem_of_find?_eq_some hfind)
  dsimp only at hcolon ⊢
  omega

theorem ofNat_ne_colon {n : Nat} (h : 58 < n) : Char.ofNat n ≠ ':' := by
  intro heq
  by_cases hvalid : n.isValidChar
  · rw [Char.ofNat, dif_pos hvalid] at heq
    have hcode : n = 58 := congrArg Char.toNat heq
    omega
  · rw [Char.ofNat, dif_neg hvalid] at heq
    cases heq

/-- Only a colon has a colon for its small letter. -/
theorem eq_of_colon_mem_smallsOf {c : Char} (h : ':' ∈ smallsOf c) : c = ':' := by
  unfold smallsOf at h
  split at h
  · next hc =>
    have hsmall : ∀ n < 0x80, ':' = (Char.ofNat n).toLower → Char.ofNat n = ':' := by
      decide +kernel
    have := hsmall c.toNat hc
    rw [Char.ofNat_toNat] at this
    exact this (List.mem_singleton.1 h)
  · split at h
    · simp at h
    · split at h
      · next hshift =>
        have := colon_lt_of_shift? hshift
        exact absurd (List.mem_singleton.1 h).symm (ofNat_ne_colon (by omega))
      · exact (List.mem_singleton.1 h).symm

theorem count_colon_smallsOf (c : Char) :
    (Text.ofChars (smallsOf c)).count (.char ':') ≤ [TextUnit.char c].count (.char ':') := by
  by_cases hc : c = ':'
  · subst hc
    decide
  · rw [List.count_eq_zero.2]
    · exact Nat.zero_le _
    · intro hmem
      obtain ⟨d, hd, heq⟩ := List.mem_map.1 hmem
      cases heq
      exact hc (eq_of_colon_mem_smallsOf hd)

theorem count_colon_lowered (t : Text) : t.lowered.count (.char ':') ≤ t.count (.char ':') := by
  suffices hbehind : ∀ before, (SmallLetter.lowerBehind before t).count (.char ':') ≤
      t.count (.char ':') from hbehind []
  induction t with
  | nil => exact fun _ => Nat.le_refl _
  | cons u t ih =>
    intro before
    show _ ≤ ([u] ++ t).count _
    unfold SmallLetter.lowerBehind
    rw [List.count_append, List.count_append]
    refine Nat.add_le_add ?_ (ih _)
    split
    · split <;> exact Nat.le_of_eq rfl
    · exact count_colon_smallsOf _
    · exact Nat.le_refl _

/-! ### Numbers of many parts -/

/-- How many colons a number may have before one of its parts counts more than any number. -/
def maxColons : Nat := 173

theorem pow_lt_wholeLimit {k : Nat} (h : k ≤ maxColons) : 60 ^ k < Decimal.wholeLimit :=
  (Nat.pow_le_pow_right (by decide) h).trans_lt (by decide +kernel)

/-- A number is wrong, or there is nothing in it but joints, or it has too many parts. -/
theorem ends_number (hvalue : ∀ fault, fault.IsValue → P fault)
    (hindex : (∀ u ∈ t, u = .char '_') → ∀ f, f.kind = .index → P (.unbuildable f))
    (hparts : maxColons < t.count (.char ':') →
      ∀ f : Failure, f.kind = .other "OverflowError" → P (.unbuildable f)) :
    Ends P (fun _ => True) (number t) := by
  have hof : ∀ t : Text, Ends P (fun _ => True) (numberOf t) := fun t =>
    (ends_numberOf t).mono hvalue fun _ => id
  have hsigned : Ends P (fun r => IsUnsigned (withoutJoints t).lowered r.2)
      (signed (withoutJoints t).lowered) := ends_signed fun hnil => hindex fun u hu => by
    by_contra hjoint
    exact lowered_ne_nil (List.ne_nil_of_mem (mem_withoutJoints hu hjoint)) hnil
  refine hsigned.bind fun (negative, body) hbody => ?_
  dsimp only
  split
  · exact .ok trivial
  · split
    · exact .ok trivial
    · split
      · refine (Ends.mapM fun _ _ => hof _).bind fun parts hlength => ?_
        refine (ends_withSixtieths fun k hk hlimit => hparts ?_).bind fun _ _ => .ok trivial
        have hcolons : body.count (.char ':') ≤ t.count (.char ':') :=
          (hbody.suffix.sublist.count_le _).trans
            ((count_colon_lowered _).trans (List.filter_sublist.count_le _))
        rw [List.length_reverse, hlength, length_splitOn] at hk
        by_contra hfew
        have := pow_lt_wholeLimit (k := k) (by omega)
        omega
      · exact (hof _).bind fun _ _ => .ok trivial

/-! ### Other values -/

theorem ends_boolean
    (hkey : (∀ pair ∈ Tag.booleanWords, t.lowered.isString pair.1 = false) →
      ∀ f, f.kind = .key → P (.unbuildable f)) : Ends P (fun _ => True) (boolean t) := by
  unfold boolean
  split
  · exact .ok trivial
  · next hnone =>
    refine .error (hkey (fun pair hpair => ?_) _ rfl)
    simpa using List.find?_eq_none.1 hnone pair hpair

theorem ends_time (hvalue : ∀ fault, fault.IsValue → P fault)
    (hmember : (t.toChars?.bind fun cs => WrittenTime.ofChars? (withoutBreak cs)) = none →
      ∀ f, f.kind = .member → P (.unbuildable f)) : Ends P (fun _ => True) (time t) := by
  unfold time
  split
  · next hnone => exact .error (hmember hnone _ rfl)
  · split
    · exact .error (hvalue _ rfl)
    · exact .ok trivial

theorem ends_binary (hmalformed : P .malformed) : Ends P (fun _ => True) (binary t) := by
  unfold binary
  split
  · exact .error hmalformed
  · split <;> exact .ok trivial

/-- Whatever its tag is, a scalar makes a value or is refused for a known reason. -/
theorem ends_value (tag : Tag) (t : Text) : Ends Fault.IsKnown (fun _ => True) (value tag t) := by
  have hvalue : ∀ fault : Fault, fault.IsValue → fault.IsKnown := fun _ => Fault.IsValue.isKnown
  have hstray : ∀ kind ∈ strayKinds, ∀ f : Failure, f.kind = kind →
      (Fault.unbuildable f).IsKnown := fun kind hkind f hf => .inr (hf ▸ hkind)
  cases tag with
  | boolean => exact (ends_boolean fun _ => hstray _ (by decide)).map fun _ _ => trivial
  | integer => exact (ends_integer hvalue fun _ => hstray _ (by decide)).map fun _ _ => trivial
  | number =>
    exact (ends_number hvalue (fun _ => hstray _ (by decide)) fun _ => hstray _ (by decide)).map
      fun _ _ => trivial
  | binary => exact ends_binary trivial
  | time => exact ends_time hvalue fun _ => hstray _ (by decide)
  | null | text => exact .ok trivial
  | _ => exact .error trivial

end Scalar

/-! ### Usual tags -/

namespace Tag

theorem unsigned_suffix (cs : List Char) : unsigned cs <:+ cs := by
  unfold unsigned
  split
  · exact List.suffix_cons _ _
  · exact List.suffix_cons _ _
  · exact List.suffix_rfl

theorem mem_of_isNumber {cs : List Char} (h : isNumber cs = true) : '.' ∈ cs := by
  by_contra hpoint
  have hbody : '.' ∉ unsigned cs := fun hmem => hpoint ((unsigned_suffix cs).subset hmem)
  have hnil : (unsigned cs).dropWhile (· != '.') = [] :=
    List.dropWhile_eq_nil_iff.2 fun c hc => bne_iff_ne.2 fun heq => hbody (heq ▸ hc)
  simp [isNumber, hnil] at h

theorem exists_isDigit_of_isNumeral {cs : List Char} (h : isNumeral cs = true) :
    ∃ c ∈ cs, c.isDigit = true := by
  cases cs with
  | nil => cases h
  | cons c cs => exact ⟨c, List.mem_cons_self, (Bool.and_eq_true_iff.1 h).1⟩

theorem exists_isDigit_of_isInteger {cs : List Char} (h : isInteger cs = true) :
    ∃ c ∈ cs, c.isDigit = true := by
  suffices hbody : ∃ c ∈ unsigned cs, c.isDigit = true by
    obtain ⟨c, hc, hdigit⟩ := hbody
    exact ⟨c, (unsigned_suffix cs).subset hc, hdigit⟩
  have hzero : ∀ {rest : List Char}, ∃ c ∈ '0' :: rest, c.isDigit = true :=
    ⟨'0', List.mem_cons_self, by decide⟩
  unfold isInteger at h
  dsimp only at h
  split at h
  · next heq => exact heq ▸ hzero
  · next heq => exact heq ▸ hzero
  · next heq => exact heq ▸ hzero
  · next heq => exact heq ▸ hzero
  · split at h
    · next first parts hsplit =>
      obtain ⟨c, hc, hdigit⟩ := exists_isDigit_of_isNumeral (Bool.and_eq_true_iff.1 h).1
      refine ⟨c, ?_, hdigit⟩
      rw [← @List.intercalate_splitOn _ (unsigned cs) _ _ ':', hsplit]
      cases parts <;> simp [List.intercalate, List.intersperse, hc]
    · cases h

/-- A word for a truth value is one in each of its three spellings. -/
theorem isString_lowered_of_isCased : ∀ pair ∈ booleanWords,
    ∀ cs ∈ [pair.1.toList, pair.1.capitalize.toList, pair.1.toUpper.toList],
      (Text.lowered (cs.map .char)).isString pair.1 = true := by
  decide +kernel

end Tag

/-- A scalar with its usual tag makes a value, or the value is wrong, unless it has too many
colons. -/
theorem Scalar.ends_value_of_fits {tag : Tag} {t : Text} (h : (Node.scalar tag t).Fits)
    (hcolons : t.count (.char ':') ≤ maxColons) :
    Ends Fault.IsValue (fun _ => True) (value tag t) := by
  obtain ⟨rfl, hbreak⟩ | rfl := h
  swap
  · exact .ok trivial
  unfold ReadNode.calledFor
  split
  · exact .ok trivial
  next cs hcs =>
  obtain rfl := Text.eq_map_char_of_toChars? hcs
  have hlast : cs.getLast? ≠ some '\n' := by
    intro hlast
    exact hbreak (by rw [List.getLast?_map, hlast]; rfl)
  have hvalue : ∀ fault : Fault, fault.IsValue → fault.IsValue := fun _ => id
  dsimp only
  rw [if_neg (by simp [hlast])]
  -- the word that calls for a tag rules out what only a given tag leads to
  unfold Tag.ofPlain
  split
  · exact .ok trivial
  split
  · next hword =>
    obtain ⟨pair, hpair, hcased⟩ := List.any_eq_true.1 hword
    refine (ends_boolean fun hnone => ?_).map fun _ _ => trivial
    have hstring := Tag.isString_lowered_of_isCased pair hpair cs (by
      simpa [Tag.isCased, or_assoc] using hcased)
    exact absurd (hnone pair hpair) (by simp [hstring])
  split
  · next hnumber =>
    refine (ends_number hvalue (fun hall => ?_) fun hmany => ?_).map fun _ _ => trivial
    · have hpoint := hall (.char '.') (List.mem_map_of_mem (Tag.mem_of_isNumber hnumber))
      cases hpoint
    · exact absurd hcolons (Nat.not_le.2 hmany)
  split
  · next hinteger =>
    refine (ends_integer hvalue fun hall => ?_).map fun _ _ => trivial
    obtain ⟨c, hc, hdigit⟩ := Tag.exists_isDigit_of_isInteger hinteger
    rcases hall (.char c) (List.mem_map_of_mem hc) with h | h | h <;> cases h <;> cases hdigit
  split
  · exact .error trivial
  split
  · exact .error trivial
  split
  · next htime =>
    refine ends_time hvalue fun hnone => ?_
    rw [hcs, Option.bind_some, withoutBreak, if_neg hlast] at hnone
    rw [Tag.isTime, hnone] at htime
    cases htime
  split
  · exact .error trivial
  · exact .ok trivial

end Yaml
end ReleaseNotes
