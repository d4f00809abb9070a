/-
The precedence of versions.

Versions whose numerals are short enough to be compared are ordered by a comparison that is
oriented and transitive: by their numbers, then a release behind its prereleases, then by the
identifiers of the prerelease.  Two versions that were read compare as equal exactly if they have
the same numbers and the same prerelease.

Main statements:
* `Version.identifierOrder` — the order of identifiers, however long their numerals are;
* `Version.precedence` — the order of versions, however long their numerals are;
* `Version.order_eq_precedence` — the comparison finds it, if it compares short numerals only;
* `Version.precedence_eq_iff` — which versions are equal in it;
* `Version.order_isPreorder` — the laws of the comparison.
-/
import ReleaseNotes.Proofs.Version.RoundTrip
import ReleaseNotes.Version.Order

namespace ReleaseNotes
namespace Version

/-! ### Identifiers -/

/-- The number that an identifier stands for, if it is one. -/
def numeral? (i : String) : Option Nat :=
  if isNumeric i then some (Numeral.value i.toList) else none

/-- The order of two identifiers, however long their numerals are. -/
def identifierOrder (a b : String) : Ordering :=
  match numeral? a, numeral? b with
  | some m, some n => compare m n
  | some _, none => .lt
  | none, some _ => .gt
  | none, none => compare a.toList b.toList

instance : Std.OrientedCmp identifierOrder where
  eq_swap {a b} := by
    unfold identifierOrder
    cases numeral? a <;> cases numeral? b
    · exact Std.OrientedOrd.eq_swap
    · rfl
    · rfl
    · exact Std.OrientedOrd.eq_swap

instance : Std.TransCmp identifierOrder where
  isLE_trans {a b c} hab hbc := by
    unfold identifierOrder at hab hbc ⊢
    -- numbers come before words, so four of the eight cases go against an assumption
    cases ha : numeral? a <;> cases hb : numeral? b <;> cases hc : numeral? c <;>
      simp only [ha, hb, hc] at hab hbc ⊢
    · exact Std.TransOrd.isLE_trans hab hbc
    · cases hbc
    · cases hab
    · cases hab
    · rfl
    · cases hbc
    · rfl
    · exact Std.TransOrd.isLE_trans hab hbc

theorem isNumeric_iff {i : String} :
    isNumeric i = true ↔ i.toList ≠ [] ∧ ∀ c ∈ i.toList, IsDigit c := by
  simp [isNumeric, isDigit_iff]

/-- An identifier of a prerelease that is a number is the only one with its value. -/
theorem eq_of_identifierOrder {a b : String} (ha : IsPrereleaseItem a.toList)
    (hb : IsPrereleaseItem b.toList) (h : identifierOrder a b = .eq) : a = b := by
  have hdigits : ∀ {i : String} {n : Nat}, IsPrereleaseItem i.toList → numeral? i = some n →
      i.toList = Numeral.digits n := by
    intro i n hi hn
    unfold numeral? at hn
    split at hn
    · next hnumeric =>
      cases hn
      exact (hi.2 (isNumeric_iff.1 hnumeric).2).digits_value.symm
    · cases hn
  apply String.toList_injective
  unfold identifierOrder at h
  split at h
  · next m n hm hn =>
    rw [hdigits ha hm, hdigits hb hn, Std.LawfulEqOrd.eq_of_compare h]
  · cases h
  · cases h
  · exact Std.LawfulEqOrd.eq_of_compare h

theorem eq_of_compareLex {p q : List String} (hp : ∀ i ∈ p, IsPrereleaseItem i.toList)
    (hq : ∀ i ∈ q, IsPrereleaseItem i.toList)
    (h : List.compareLex identifierOrder p q = .eq) : p = q := by
  induction p generalizing q with
  | nil =>
    cases q with
    | nil => rfl
    | cons b q => cases h
  | cons a p ih =>
    cases q with
    | nil => cases h
    | cons b q =>
      rw [List.compareLex_cons_cons, Ordering.then_eq_eq] at h
      have hhead := eq_of_identifierOrder (hp a List.mem_cons_self) (hq b List.mem_cons_self) h.1
      have htail := ih (fun i hi => hp i (List.mem_cons_of_mem _ hi))
        (fun i hi => hq i (List.mem_cons_of_mem _ hi)) h.2
      rw [hhead, htail]

/-! ### Versions -/

/-- The order of the prereleases of two versions: the first difference decides, then the length. -/
def prereleaseOrder (v w : Version) : Ordering :=
  List.compareLex identifierOrder v.prerelease w.prerelease

instance : Std.TransCmp prereleaseOrder where
  eq_swap {v w} := by
    have hswap : List.compareLex identifierOrder v.prerelease w.prerelease =
        (List.compareLex identifierOrder w.prerelease v.prerelease).swap :=
      Std.OrientedCmp.eq_swap
    exact hswap
  isLE_trans {u v w} huv hvw := by
    have htrans : (List.compareLex identifierOrder u.prerelease w.prerelease).isLE = true :=
      Std.TransCmp.isLE_trans huv hvw
    exact htrans

/-- The order of versions, however long their numerals are: by the numbers, then a release behind
its prereleases, then by the prereleases. -/
def precedence : Version → Version → Ordering :=
  compareLex (compareOn core)
    (compareLex (compareOn fun v => v.prerelease.isEmpty) prereleaseOrder)

instance : Std.TransCmp precedence :=
  inferInstanceAs (Std.TransCmp (compareLex (compareOn core)
    (compareLex (compareOn fun v => v.prerelease.isEmpty) prereleaseOrder)))

/-- An identifier that is short if it is a numeral. -/
def IsShort (i : String) : Prop := (∀ c ∈ i.toList, IsDigit c) → i.length ≤ Numeral.maxDigits

/-- The numerals in the prerelease of a version are short enough to be compared. -/
def HasShortNumerals (v : Version) : Prop := ∀ i ∈ v.prerelease, IsShort i

theorem HasShortNumerals.of_length {v : Version}
    (h : ∀ i ∈ v.prerelease, i.length ≤ Numeral.maxDigits) : v.HasShortNumerals :=
  fun i hi _ => h i hi

theorem number_of_isNumeric {i : String} (h : isNumeric i = true) (hshort : IsShort i) :
    number i.toList = .ok (Numeral.value i.toList) := by
  have hlength : i.length ≤ Numeral.maxDigits := hshort (isNumeric_iff.1 h).2
  exact number_of_le (by rwa [String.length_toList])

theorem compareIdentifiers_eq {a b : String} (ha : IsShort a) (hb : IsShort b) :
    compareIdentifiers a b = .ok (identifierOrder a b) := by
  unfold compareIdentifiers identifierOrder numeral?
  cases hna : isNumeric a <;> cases hnb : isNumeric b
  · rfl
  · rfl
  · rfl
  · dsimp only
    rw [number_of_isNumeric hna ha, number_of_isNumeric hnb hb]
    rfl

theorem comparePrereleases_eq {p q : List String} (hp : ∀ i ∈ p, IsShort i)
    (hq : ∀ i ∈ q, IsShort i) :
    comparePrereleases p q = .ok (List.compareLex identifierOrder p q) := by
  induction p generalizing q with
  | nil => cases q <;> rfl
  | cons a p ih =>
    cases q with
    | nil => rfl
    | cons b q =>
      have hhead := compareIdentifiers_eq (hp a List.mem_cons_self) (hq b List.mem_cons_self)
      have htail := ih (fun i hi => hp i (List.mem_cons_of_mem _ hi))
        fun i hi => hq i (List.mem_cons_of_mem _ hi)
      rw [comparePrereleases, hhead, List.compareLex_cons_cons]
      dsimp only [bind, Except.bind]
      cases identifierOrder a b with
      | lt => rfl
      | eq => exact htail
      | gt => rfl

/-- The comparison finds the precedence, unless it has to compare two prereleases of which one
holds a numeral that is too long. -/
theorem order_eq_precedence {v w : Version}
    (h : v.prerelease ≠ [] → w.prerelease ≠ [] → v.HasShortNumerals ∧ w.HasShortNumerals) :
    order v w = .ok (precedence v w) := by
  unfold order precedence compareLex compareOn
  dsimp only
  cases compare v.core w.core with
  | lt => rfl
  | gt => rfl
  | eq =>
    unfold prereleaseOrder
    cases hv : v.prerelease with
    | nil => cases hw : w.prerelease <;> rfl
    | cons a p =>
      cases hw : w.prerelease with
      | nil => rfl
      | cons b q =>
        obtain ⟨hshort, hshort'⟩ := h (by simp [hv]) (by simp [hw])
        exact comparePrereleases_eq (hv ▸ hshort) (hw ▸ hshort')

theorem order_of_release {v w : Version} (h : v.prerelease = []) :
    order v w = .ok (precedence v w) :=
  order_eq_precedence fun hne => absurd h hne

/-- Two well-formed versions are equal in the order exactly if they have the same numbers and the
same prerelease. -/
theorem precedence_eq_iff {v w : Version} (hv : v.WellFormed) (hw : w.WellFormed) :
    precedence v w = .eq ↔ v.core = w.core ∧ v.prerelease = w.prerelease := by
  unfold precedence compareLex compareOn
  rw [Ordering.then_eq_eq, Ordering.then_eq_eq, Std.LawfulEqOrd.compare_eq_iff_eq]
  constructor
  · rintro ⟨hcore, -, hpre⟩
    exact ⟨hcore, eq_of_compareLex hv.prerelease hw.prerelease hpre⟩
  · rintro ⟨hcore, hpre⟩
    refine ⟨hcore, by simp only [hpre, Std.ReflOrd.compare_self], ?_⟩
    rw [prereleaseOrder, hpre]
    exact Std.ReflCmp.compare_self

/-! ### The sign of an order -/

theorem sign_cases (o : Ordering) : sign o = -1 ∨ sign o = 0 ∨ sign o = 1 := by
  cases o <;> decide

theorem sign_swap (o : Ordering) : sign o.swap = -sign o := by
  cases o <;> rfl

theorem sign_nonpos_iff {o : Ordering} : sign o ≤ 0 ↔ o.isLE = true := by
  cases o <;> decide

theorem sign_neg_iff {o : Ordering} : sign o < 0 ↔ o = .lt := by
  cases o <;> decide

theorem sign_eq_zero_iff {o : Ordering} : sign o = 0 ↔ o = .eq := by
  cases o <;> decide

/-- A version that was read, with numerals in its prerelease that are short enough to be
compared. -/
structure Comparable (v : Version) : Prop where
  isRead : ∃ t, parse t = .ok v
  short : v.HasShortNumerals

theorem Comparable.wellFormed {v : Version} (h : v.Comparable) : v.WellFormed := by
  obtain ⟨t, ht⟩ := h.isRead
  exact (parse_eq_ok_iff.1 ht).1

/-- The comparison of versions that were read is a total preorder: it always has one of three signs,
which turns when the versions are exchanged; it is transitive; and it is zero exactly for versions
that differ in their builds at most. -/
theorem order_isPreorder {a b c : Version} (ha : a.Comparable) (hb : b.Comparable)
    (hc : c.Comparable) :
    ∃ ab ba bc ac : Int,
      (a.order b).map sign = .ok ab ∧ (b.order a).map sign = .ok ba ∧
      (b.order c).map sign = .ok bc ∧ (a.order c).map sign = .ok ac ∧
      (ab = -1 ∨ ab = 0 ∨ ab = 1) ∧ ab = -ba ∧
      (ab ≤ 0 → bc ≤ 0 → ac ≤ 0 ∧ (ab < 0 ∨ bc < 0 → ac < 0)) ∧
      (ab = 0 ↔ a.major = b.major ∧ a.minor = b.minor ∧ a.patch = b.patch ∧
        a.prerelease = b.prerelease) := by
  have horder : ∀ {v w : Version}, v.Comparable → w.Comparable →
      (v.order w).map sign = .ok (sign (precedence v w)) := by
    intro v w hv hw
    rw [order_eq_precedence fun _ _ => ⟨hv.short, hw.short⟩]
    rfl
  refine ⟨_, _, _, _, horder ha hb, horder hb ha, horder hb hc, horder ha hc, sign_cases _, ?_, ?_,
    ?_⟩
  · have hswap : precedence a b = (precedence b a).swap := Std.OrientedCmp.eq_swap
    rw [hswap, sign_swap]
  · intro hab hbc
    rw [sign_nonpos_iff] at hab hbc ⊢
    rw [sign_neg_iff, sign_neg_iff, sign_neg_iff]
    refine ⟨Std.TransCmp.isLE_trans hab hbc, ?_⟩
    rintro (hlt | hlt)
    · exact Std.TransCmp.lt_of_lt_of_isLE hlt hbc
    · exact Std.TransCmp.lt_of_isLE_of_lt hab hlt
  · rw [sign_eq_zero_iff, precedence_eq_iff ha.wellFormed hb.wellFormed]
    simp [core, and_assoc]

/-- A number is below a longer one and below a word. -/
theorem order_isPreorder_candidates :
    Comparable ⟨1, 0, 0, ["rc", "9"], []⟩ ∧ Comparable ⟨1, 0, 0, ["rc", "10"], ["7"]⟩ ∧
      Comparable ⟨1, 0, 0, ["rc", "x", "0"], []⟩ ∧
      ∃ ab ba bc ac : Int,
        (order ⟨1, 0, 0, ["rc", "9"], []⟩ ⟨1, 0, 0, ["rc", "10"], ["7"]⟩).map sign = .ok ab ∧
        (order ⟨1, 0, 0, ["rc", "10"], ["7"]⟩ ⟨1, 0, 0, ["rc", "9"], []⟩).map sign = .ok ba ∧
        (order ⟨1, 0, 0, ["rc", "10"], ["7"]⟩ ⟨1, 0, 0, ["rc", "x", "0"], []⟩).map sign = .ok bc ∧
        (order ⟨1, 0, 0, ["rc", "9"], []⟩ ⟨1, 0, 0, ["rc", "x", "0"], []⟩).map sign = .ok ac ∧
        ab = -1 ∧ ba = 1 ∧ bc = -1 ∧ ac < 0 := by
  have ha : Comparable ⟨1, 0, 0, ["rc", "9"], []⟩ :=
    ⟨⟨"1.0.0-rc.9", parse_of_match? (by decide +kernel) (by decide +kernel)⟩,
      .of_length (by decide)⟩
  have hb : Comparable ⟨1, 0, 0, ["rc", "10"], ["7"]⟩ :=
    ⟨⟨"v1.0.0-rc.10+7", parse_of_match? (by decide +kernel) (by decide +kernel)⟩,
      .of_length (by decide)⟩
  have hc : Comparable ⟨1, 0, 0, ["rc", "x", "0"], []⟩ :=
    ⟨⟨"1.0.0-rc.x.0", parse_of_match? (by decide +kernel) (by decide +kernel)⟩,
      .of_length (by decide)⟩
  obtain ⟨ab, ba, bc, ac, hab, hba, hbc, hac, -, hswap, htrans, -⟩ := order_isPreorder ha hb hc
  have hab' : ab = -1 := Except.ok.inj (hab.symm.trans rfl)
  have hbc' : bc = -1 := Except.ok.inj (hbc.symm.trans rfl)
  refine ⟨ha, hb, hc, ab, ba, bc, ac, hab, hba, hbc, hac, hab', by omega, hbc', ?_⟩
  exact (htrans (by omega) (by omega)).2 (by omega)

end Version
end ReleaseNotes
