/-
Versions with long numbers.

The grammar of versions sets no bound on their numbers, but numbers are only converted up to a bound.
The numbers of a version are converted when it is read, the number that is raised is converted back
when the next version is written, and the numerals of its prerelease are converted when they are
compared with others.  So there are three places at which a text of the grammar may fail, and
everywhere else it is treated as the grammar says.

Main statements:
* `Version.length_digits_le_iff` — how long a numeral is;
* `Version.IsOverlong`, `Version.Outgrown`, `Version.Stalled` — the three places;
* `Version.order_outcome` — the comparison of well-formed versions;
* `Version.standing` — how a text stands to the grammar;
* `Version.isValid_outcomes`, `Version.next_outcomes`, `Version.compareGiven_outcomes` — what the
  library makes of texts;
* `Version.isOverlong_ofMajor`, `Version.outgrown_ofMajor`, `Version.stalledTexts_ofCandidate` — texts
  that fail at each of the three places.
-/
import Mathlib.Algebra.Group.Nat.Defs
import Mathlib.Tactic.Common
import ReleaseNotes.Proofs.Version.Raising

namespace ReleaseNotes
namespace Version

/-! ### Long numbers -/

/-- A numeral has so many digits at most exactly if its number is below that power of ten. -/
theorem length_digits_le_iff {n d : Nat} (hd : 0 < d) :
    (Numeral.digits n).length ≤ d ↔ n < 10 ^ d := by
  induction d generalizing n with
  | zero => omega
  | succ d ih =>
    by_cases hn : n < 10
    · have hpow : 10 ^ 1 ≤ 10 ^ (d + 1) := Nat.pow_le_pow_right (by omega) (by omega)
      rw [Numeral.digits_of_lt hn, List.length_singleton]
      omega
    · have hge : 10 ≤ n := by omega
      rw [Numeral.digits_of_ge hge, List.length_append, List.length_singleton]
      -- a digit less on the one side, a tenth on the other
      by_cases hzero : d = 0
      · subst hzero
        have hne : (Numeral.digits (n / 10)).length ≠ 0 := by
          rw [ne_eq, List.length_eq_zero_iff]
          exact Numeral.digits_ne_nil _
        omega
      · have htenth := ih (n := n / 10) (by omega)
        have hpow : 10 ^ (d + 1) = 10 ^ d * 10 := Nat.pow_succ 10 d
        omega

theorem isWritable_iff_lt {v : Version} :
    v.isWritable = true ↔ ∀ n ∈ v.core, n < 10 ^ Numeral.maxDigits := by
  rw [isWritable_iff]
  exact forall₂_congr fun n _ => length_digits_le_iff (by decide)

/-- The next version of a kind holds a number that is too long to be written. -/
def Outgrows (v : Version) (k : ReleaseKind) : Prop :=
  ∃ n ∈ (v.bump k).core, 10 ^ Numeral.maxDigits ≤ n

theorem not_outgrows_iff {v : Version} {k : ReleaseKind} :
    ¬ v.Outgrows k ↔ (v.bump k).isWritable = true := by
  rw [isWritable_iff_lt, Outgrows]
  simp only [not_exists, not_and, Nat.not_le]

/-- A number of the next version is zero, a number of the version before, or the one above such. -/
theorem mem_core_bump {v : Version} {k : ReleaseKind} {n : Nat} (h : n ∈ (v.bump k).core) :
    n = 0 ∨ n ∈ v.core ∨ ∃ m ∈ v.core, n = m + 1 := by
  have hmajor : v.major ∈ v.core := by simp [core]
  have hminor : v.minor ∈ v.core := by simp [core]
  have hpatch : v.patch ∈ v.core := by simp [core]
  -- either branch of every kind says which numbers it keeps, which one it raises and which are zero
  cases k <;> unfold bump at h <;> dsimp only at h <;> split at h <;>
    simp only [core, List.mem_cons, List.not_mem_nil, or_false] at h <;> grind

/-- Numbers that are shorter than the bound can be raised. -/
theorem not_outgrows_of_short {v : Version}
    (h : ∀ n ∈ v.core, (Numeral.digits n).length < Numeral.maxDigits) (k : ReleaseKind) :
    ¬ v.Outgrows k := by
  -- the bound is kept closed, so that no power of ten is computed
  obtain ⟨d, hd, hpos⟩ : ∃ d, Numeral.maxDigits = d + 1 ∧ 0 < d := ⟨4299, rfl, by decide⟩
  have hbelow : ∀ n ∈ v.core, n < 10 ^ d := by
    intro n hn
    have hlength := h n hn
    exact (length_digits_le_iff hpos).1 (by omega)
  have hone : 0 < 10 ^ d := Nat.pow_pos (by omega)
  have hpow : 10 ^ (d + 1) = 10 ^ d * 10 := Nat.pow_succ 10 d
  rintro ⟨n, hn, hlong⟩
  rw [hd] at hlong
  rcases mem_core_bump hn with rfl | hn | ⟨m, hm, rfl⟩
  · omega
  · have := hbelow n hn
    omega
  · have := hbelow m hm
    omega

/-! ### Long numerals in prereleases -/

/-- Two identifiers are numerals of which one is too long to be compared. -/
structure Clash (a b : String) : Prop where
  left : isNumeric a = true
  right : isNumeric b = true
  long : ¬ (IsShort a ∧ IsShort b)

/-- Two lists of identifiers are alike up to a place at which two numerals stand of which one is too
long to be compared. -/
def Stalls (p q : List String) : Prop :=
  ∃ same i j p' q', p = same ++ i :: p' ∧ q = same ++ j :: q' ∧ (∀ x ∈ same, IsShort x) ∧ Clash i j

theorem isShort_of_not_isNumeric {i : String} (hne : i.toList ≠ []) (h : isNumeric i = false) :
    IsShort i := by
  intro hdigits
  rw [isNumeric_iff.2 ⟨hne, hdigits⟩] at h
  cases h

theorem length_of_not_isShort {i : String} (h : ¬ IsShort i) :
    Numeral.maxDigits < i.toList.length := by
  rw [String.length_toList]
  exact Nat.lt_of_not_le fun hle => h fun _ => hle

theorem Clash.compareIdentifiers_eq {a b : String} (h : Clash a b) :
    ∃ limit, compareIdentifiers a b = .error limit := by
  obtain ⟨hna, hnb, hlong⟩ := h
  unfold compareIdentifiers
  rw [hna, hnb]
  dsimp only
  by_cases hshort : IsShort a
  · -- the first numeral is read, so the second one is too long
    have hlength : Numeral.maxDigits < b.toList.length :=
      length_of_not_isShort fun hb => hlong ⟨hshort, hb⟩
    refine ⟨.reading b.toList.length, ?_⟩
    rw [number_of_isNumeric hna hshort, number_of_lt hlength]
    rfl
  · refine ⟨.reading a.toList.length, ?_⟩
    rw [number_of_lt (length_of_not_isShort hshort)]
    rfl

theorem compareIdentifiers_of_not_clash {a b : String} (h : ¬ Clash a b) :
    compareIdentifiers a b = .ok (identifierOrder a b) := by
  cases hna : isNumeric a with
  | false =>
    unfold compareIdentifiers identifierOrder numeral?
    rw [hna]
    cases isNumeric b <;> rfl
  | true =>
    cases hnb : isNumeric b with
    | false =>
      unfold compareIdentifiers identifierOrder numeral?
      rw [hna, hnb]
      rfl
    | true =>
      by_cases hshort : IsShort a ∧ IsShort b
      · exact Version.compareIdentifiers_eq hshort.1 hshort.2
      · exact absurd ⟨hna, hnb, hshort⟩ h

theorem stalls_cons_of_ne {a b : String} {p q : List String} (hne : a ≠ b) (h : ¬ Clash a b) :
    ¬ Stalls (a :: p) (b :: q) := by
  rintro ⟨same, i, j, p', q', hp, hq, -, hclash⟩
  cases same with
  | nil =>
    obtain ⟨rfl, -⟩ := List.cons_eq_cons.1 hp
    obtain ⟨rfl, -⟩ := List.cons_eq_cons.1 hq
    exact h hclash
  | cons x same =>
    obtain ⟨rfl, -⟩ := List.cons_eq_cons.1 hp
    obtain ⟨rfl, -⟩ := List.cons_eq_cons.1 hq
    exact hne rfl

theorem stalls_cons_self {a : String} {p q : List String} (hshort : IsShort a) :
    Stalls (a :: p) (a :: q) ↔ Stalls p q := by
  constructor
  · rintro ⟨same, i, j, p', q', hp, hq, hsame, hclash⟩
    cases same with
    | nil =>
      obtain ⟨rfl, -⟩ := List.cons_eq_cons.1 hp
      obtain ⟨rfl, -⟩ := List.cons_eq_cons.1 hq
      exact absurd ⟨hshort, hshort⟩ hclash.long
    | cons x same =>
      obtain ⟨-, hp⟩ := List.cons_eq_cons.1 hp
      obtain ⟨-, hq⟩ := List.cons_eq_cons.1 hq
      exact ⟨same, i, j, p', q', hp, hq, fun y hy => hsame y (List.mem_cons_of_mem _ hy), hclash⟩
  · rintro ⟨same, i, j, p', q', rfl, rfl, hsame, hclash⟩
    refine ⟨a :: same, i, j, p', q', rfl, rfl, ?_, hclash⟩
    intro y hy
    rcases List.mem_cons.1 hy with rfl | hy
    · exact hshort
    · exact hsame y hy

theorem not_stalls_nil_left (q : List String) : ¬ Stalls [] q := by
  rintro ⟨same, i, j, p', q', hp, -⟩
  simp at hp

theorem not_stalls_nil_right (p : List String) : ¬ Stalls p [] := by
  rintro ⟨same, i, j, p', q', -, hq, -⟩
  simp at hq

/-- Two prereleases are compared unless that stalls. -/
theorem comparePrereleases_outcome {p q : List String} (hp : ∀ i ∈ p, IsPrereleaseItem i.toList)
    (hq : ∀ i ∈ q, IsPrereleaseItem i.toList) :
    (Stalls p q → ∃ limit, comparePrereleases p q = .error limit) ∧
      (¬ Stalls p q →
        comparePrereleases p q = .ok (List.compareLex identifierOrder p q)) := by
  induction p generalizing q with
  | nil =>
    refine ⟨fun h => absurd h (not_stalls_nil_left q), fun _ => ?_⟩
    cases q <;> rfl
  | cons a p ih =>
    cases q with
    | nil => exact ⟨fun h => absurd h (not_stalls_nil_right _), fun _ => rfl⟩
    | cons b q =>
      have ha := hp a List.mem_cons_self
      have hb := hq b List.mem_cons_self
      rw [comparePrereleases]
      by_cases hclash : Clash a b
      · obtain ⟨limit, hlimit⟩ := hclash.compareIdentifiers_eq
        refine ⟨fun _ => ⟨limit, by rw [hlimit]; rfl⟩, fun h => ?_⟩
        exact absurd ⟨[], a, b, p, q, rfl, rfl, by simp, hclash⟩ h
      · rw [compareIdentifiers_of_not_clash hclash, List.compareLex_cons_cons]
        dsimp only [bind, Except.bind]
        by_cases hab : identifierOrder a b = .eq
        · -- alike identifiers are short, so the rest of the lists decides
          obtain rfl := eq_of_identifierOrder ha hb hab
          have hshort : IsShort a := by
            cases hna : isNumeric a with
            | false => exact isShort_of_not_isNumeric ha.1.1 hna
            | true =>
              by_contra hlong
              exact hclash ⟨hna, hna, fun h => hlong h.1⟩
          rw [hab, stalls_cons_self hshort]
          exact ih (fun i hi => hp i (List.mem_cons_of_mem _ hi))
            fun i hi => hq i (List.mem_cons_of_mem _ hi)
        · have hne : a ≠ b := by
            rintro rfl
            exact hab Std.ReflCmp.compare_self
          refine ⟨fun h => absurd h (stalls_cons_of_ne hne hclash), fun _ => ?_⟩
          cases hlex : identifierOrder a b with
          | lt => rfl
          | eq => exact absurd hlex hab
          | gt => rfl

/-- Two versions have the same numbers, and the comparison of their prereleases stalls. -/
def Stalled (v w : Version) : Prop := v.core = w.core ∧ Stalls v.prerelease w.prerelease

/-- Two well-formed versions are compared unless that stalls. -/
theorem order_outcome {v w : Version} (hv : v.WellFormed) (hw : w.WellFormed) :
    (Stalled v w → ∃ limit, order v w = .error limit) ∧
      (¬ Stalled v w → order v w = .ok (precedence v w)) := by
  by_cases hcore : v.core = w.core
  · have hstalled : Stalled v w ↔ Stalls v.prerelease w.prerelease := by simp [Stalled, hcore]
    have hcompare : compare v.core w.core = .eq := Std.LawfulEqOrd.compare_eq_iff_eq.2 hcore
    rw [hstalled]
    cases hp : v.prerelease with
    | nil => exact ⟨fun h => absurd h (not_stalls_nil_left _), fun _ => order_of_release hp⟩
    | cons a p =>
      cases hq : w.prerelease with
      | nil =>
        refine ⟨fun h => absurd h (not_stalls_nil_right _), fun _ => ?_⟩
        exact order_eq_precedence fun _ hne => absurd hq hne
      | cons b q =>
        have horder : order v w = comparePrereleases (a :: p) (b :: q) := by
          unfold order
          rw [hcompare, hp, hq]
        have hprecedence : precedence v w = List.compareLex identifierOrder (a :: p) (b :: q) := by
          unfold precedence compareLex compareOn prereleaseOrder
          dsimp only
          rw [hcompare, hp, hq]
          rfl
        rw [horder, hprecedence]
        exact comparePrereleases_outcome (hp ▸ hv.prerelease) (hq ▸ hw.prerelease)
  · refine ⟨fun h => absurd h.1 hcore, fun _ => ?_⟩
    have hcompare : compare v.core w.core ≠ .eq := fun h =>
      hcore (Std.LawfulEqOrd.compare_eq_iff_eq.1 h)
    unfold order precedence compareLex compareOn
    dsimp only
    cases h : compare v.core w.core with
    | lt => rfl
    | eq => exact absurd h hcompare
    | gt => rfl

/-! ### Texts -/

/-- A text spells a version of which a number is too long to be read. -/
def IsOverlong (t : Text) : Prop := ∃ p, Spells t p ∧ ¬ p.IsShort

/-- A text is read, but the next version of a kind is too long to be written. -/
def Outgrown (t : Text) (k : ReleaseKind) : Prop := ∃ v, parse t = .ok v ∧ v.Outgrows k

/-- Two texts are read, but their comparison stalls. -/
def StalledTexts (s t : Text) : Prop :=
  ∃ v w, parse s = .ok v ∧ parse t = .ok w ∧ Stalled v w

/-- How a text stands to the grammar: it is read, or it is no version, or a number of it is too long
to be read. -/
inductive Standing (t : Text) : Prop
  | read {v : Version} (parsed : parse t = .ok v) (short : ¬ IsOverlong t)
  | foreign (parsed : parse t = .error (.invalidVersion (.str t))) (short : ¬ IsOverlong t)
  | overlong {limit : NumeralLimit} (parsed : parse t = .error (.numeral limit))
      (long : IsOverlong t)

theorem standing (t : Text) : Standing t := by
  by_cases hspells : ∃ p, Spells t p
  · obtain ⟨p, hp⟩ := hspells
    by_cases hshort : p.IsShort
    · refine .read (parse_of_spells hp hshort) ?_
      rintro ⟨q, hq, hlong⟩
      rw [hq.unique hp] at hlong
      exact hlong hshort
    · obtain ⟨limit, hlimit⟩ := parse_of_spells_long hp hshort
      exact .overlong hlimit ⟨p, hp, hshort⟩
  · exact .foreign (parse_of_not_spells hspells) fun ⟨p, hp, _⟩ => hspells ⟨p, hp⟩

theorem isValid_of_parse {t : Text} {v : Version} (h : parse t = .ok v) :
    isValid (.str t) = .ok true := by
  rw [isValid, read, h]

theorem isValid_of_foreign {t : Text} {j : Json} (h : parse t = .error (.invalidVersion j)) :
    isValid (.str t) = .ok false := by
  rw [isValid, read, h]

theorem isValid_of_overlong {t : Text} {limit : NumeralLimit}
    (h : parse t = .error (.numeral limit)) : isValid (.str t) = .error (.numeral limit) := by
  rw [isValid, read, h]

/-- Whether a text is a version is told unless a number of it is too long to be read, and it is told
as the grammar has it. -/
theorem isValid_outcomes (t : Text) :
    (isValid (.str t) = .ok true ↔ ∃ p, Spells t p ∧ p.IsShort) ∧
      (isValid (.str t) = .ok false ↔ ¬ ∃ p, Spells t p) ∧
      ((∃ limit, isValid (.str t) = .error (.numeral limit)) ↔ IsOverlong t) := by
  have hspells : (∃ v, parse t = .ok v) ↔ ∃ p, Spells t p ∧ p.IsShort := by
    simp only [parse_eq_ok_iff_spells]
    exact ⟨fun ⟨_, p, hp, hshort, _⟩ => ⟨p, hp, hshort⟩,
      fun ⟨p, hp, hshort⟩ => ⟨_, p, hp, hshort, rfl⟩⟩
  have hall : (∃ p, Spells t p) ↔ (∃ p, Spells t p ∧ p.IsShort) ∨ IsOverlong t := by
    constructor
    · rintro ⟨p, hp⟩
      by_cases hshort : p.IsShort
      · exact .inl ⟨p, hp, hshort⟩
      · exact .inr ⟨p, hp, hshort⟩
    · rintro (⟨p, hp, -⟩ | ⟨p, hp, -⟩)
      · exact ⟨p, hp⟩
      · exact ⟨p, hp⟩
  rw [hall, ← hspells]
  cases standing t with
  | read parsed short => simp [isValid_of_parse parsed, parsed, short]
  | foreign parsed short => simp [isValid_of_foreign parsed, parsed, short]
  | overlong parsed long => simp [isValid_of_overlong parsed, parsed, long]

theorem next_of_error {t : Text} {f : Failure} (h : parse t = .error f) (k : ReleaseKind) :
    next (some (.str t)) k = .error f := by
  rw [next_eq, h]
  rfl

/-- From every version that is told to be one the next version of a kind is a version too, unless it
is too long to be written; what is told to be no version has no next one. -/
theorem next_outcomes (t : Text) (k : ReleaseKind) :
    ((∃ s : String, next (some (.str t)) k = .ok s ∧ isValid (.str s) = .ok true) ↔
        isValid (.str t) = .ok true ∧ ¬ Outgrown t k) ∧
      (next (some (.str t)) k = .error (.invalidVersion (.str t)) ↔ isValid (.str t) = .ok false) ∧
      ((∃ limit, next (some (.str t)) k = .error (.numeral limit)) ↔
        IsOverlong t ∨ Outgrown t k) := by
  cases standing t with
  | @read v parsed short =>
    have houtgrown : Outgrown t k ↔ v.Outgrows k := by simp [Outgrown, parsed]
    rw [next_of_parse parsed, isValid_of_parse parsed, houtgrown]
    by_cases hgrows : v.Outgrows k
    · have hwritable : (v.bump k).isWritable ≠ true := fun h => not_outgrows_iff.2 h hgrows
      have htext : (v.bump k).text = .error .writing := if_neg hwritable
      simp [htext, Except.mapError, hgrows]
    · have hwritable : (v.bump k).isWritable = true := not_outgrows_iff.1 hgrows
      have htext : (v.bump k).text = .ok (v.bump k).print := if_pos hwritable
      have hback : parse (v.bump k).print = .ok (v.bump k) :=
        parse_print ((isRelease_bump v k).wellFormed hwritable)
      simp [htext, Except.mapError, hgrows, short, isValid_of_parse hback]
  | foreign parsed short =>
    have houtgrown : ¬ Outgrown t k := by simp [Outgrown, parsed]
    simp [next_of_error parsed, isValid_of_foreign parsed, short, houtgrown]
  | overlong parsed long =>
    have houtgrown : ¬ Outgrown t k := by simp [Outgrown, parsed]
    simp [next_of_error parsed, isValid_of_overlong parsed, long, houtgrown]

theorem compareGiven_of_error {s t : Text} {f : Failure} (h : parse s = .error f) :
    compareGiven (.str s) (.str t) = .error f := by
  rw [compareGiven_eq, h]
  rfl

theorem compareGiven_of_parse_error {s t : Text} {v : Version} {f : Failure} (hs : parse s = .ok v)
    (ht : parse t = .error f) : compareGiven (.str s) (.str t) = .error f := by
  rw [compareGiven_eq, hs, ht]
  rfl

/-- What is told to be versions is compared, unless that stalls; the first text that is told to be
none, or that is too long to be read, is refused. -/
theorem compareGiven_outcomes (s t : Text) :
    ((∃ o, compareGiven (.str s) (.str t) = .ok o) ↔
        isValid (.str s) = .ok true ∧ isValid (.str t) = .ok true ∧ ¬ StalledTexts s t) ∧
      ((∃ given, compareGiven (.str s) (.str t) = .error (.invalidVersion given)) ↔
        isValid (.str s) = .ok false ∨
          isValid (.str s) = .ok true ∧ isValid (.str t) = .ok false) ∧
      ((∃ limit, compareGiven (.str s) (.str t) = .error (.numeral limit)) ↔
        IsOverlong s ∨ isValid (.str s) = .ok true ∧ (IsOverlong t ∨ StalledTexts s t)) := by
  cases standing s with
  | @read v parsed short =>
    rw [isValid_of_parse parsed]
    cases standing t with
    | @read w parsed' short' =>
      have hstalled : StalledTexts s t ↔ Stalled v w := by simp [StalledTexts, parsed, parsed']
      obtain ⟨hstall, hcompare⟩ :=
        order_outcome (parse_eq_ok_iff.1 parsed).1 (parse_eq_ok_iff.1 parsed').1
      rw [compareGiven_of_parse parsed parsed', isValid_of_parse parsed', hstalled]
      by_cases hstalls : Stalled v w
      · obtain ⟨limit, hlimit⟩ := hstall hstalls
        simp [hlimit, Except.mapError, hstalls]
      · simp [hcompare hstalls, Except.mapError, hstalls, short, short']
    | foreign parsed' short' =>
      have hstalled : ¬ StalledTexts s t := by simp [StalledTexts, parsed']
      simp [compareGiven_of_parse_error parsed parsed', isValid_of_foreign parsed', short, short',
        hstalled]
    | overlong parsed' long' =>
      simp [compareGiven_of_parse_error parsed parsed', isValid_of_overlong parsed', long']
  | foreign parsed short =>
    simp [compareGiven_of_error parsed, isValid_of_foreign parsed, short]
  | overlong parsed long =>
    simp [compareGiven_of_error parsed, isValid_of_overlong parsed, long]

/-! ### Long texts of one digit -/

theorem isNumber_replicate {d : Char} (hd : IsDigit d) (hzero : d ≠ '0') {n : Nat} (hn : 0 < n) :
    IsNumber (List.replicate n d) := by
  obtain ⟨m, rfl⟩ : ∃ m, n = m + 1 := ⟨n - 1, by omega⟩
  refine .inr ⟨List.cons_ne_nil _ _, fun c hc => ?_, fun hhead => ?_⟩
  · rw [List.eq_of_mem_replicate hc]
    exact hd
  · exact hzero (Option.some.inj hhead)

theorem isDigit_one : IsDigit '1' := isDigit_iff.1 (by decide)

theorem isDigit_nine : IsDigit '9' := isDigit_iff.1 (by decide)

theorem isNumber_zero : IsNumber ['0'] := .inl rfl

/-- The first release of a major number that is written with one digit. -/
def ofMajor (n : Nat) (d : Char) : Text := Text.ofChars (List.replicate n d ++ ['.', '0', '.', '0'])

theorem spells_ofMajor {d : Char} (hd : IsDigit d) (hzero : d ≠ '0') {n : Nat} (hn : 0 < n) :
    Spells (ofMajor n d) ⟨List.replicate n d, ['0'], ['0'], [], []⟩ := by
  refine ⟨⟨isNumber_replicate hd hzero hn, isNumber_zero, isNumber_zero, ?_, ?_⟩, .inl ?_⟩
  · simp
  · simp
  · simp [ofMajor, Parts.spelled, Parts.core, marked]

theorem isOverlong_ofMajor {n : Nat} (h : Numeral.maxDigits < n) : IsOverlong (ofMajor n '1') := by
  refine ⟨_, spells_ofMajor isDigit_one (by decide) (Nat.zero_lt_of_lt h), ?_⟩
  rintro ⟨hmajor, -⟩
  rw [List.length_replicate] at hmajor
  omega

theorem value_nines (n : Nat) : Numeral.value (List.replicate n '9') + 1 = 10 ^ n := by
  induction n with
  | zero => rfl
  | succ n ih =>
    have hdigit : Numeral.digitValue '9' = 9 := rfl
    rw [List.replicate_succ', Numeral.value_append_singleton, hdigit, Nat.pow_succ]
    omega

/-- The greatest major number that is short enough to be read is too long to be raised. -/
theorem outgrown_ofMajor {n : Nat} (h : n = Numeral.maxDigits) : Outgrown (ofMajor n '9') .major := by
  have hpos : 0 < n := by
    rw [h]
    decide
  have hshort : Parts.IsShort ⟨List.replicate n '9', ['0'], ['0'], [], []⟩ :=
    ⟨by rw [List.length_replicate, h], (by decide : 1 ≤ Numeral.maxDigits),
      (by decide : 1 ≤ Numeral.maxDigits)⟩
  refine ⟨_, parse_of_spells (spells_ofMajor isDigit_nine (by decide) hpos) hshort, 10 ^ n, ?_, ?_⟩
  · rw [← value_nines]
    exact List.mem_cons_self
  · rw [h]

/-- A candidate with a number that is written with ones. -/
def ofCandidate (n : Nat) : Text :=
  Text.ofChars ('1' :: '.' :: '0' :: '.' :: '0' :: '-' :: List.replicate n '1')

theorem parse_ofCandidate {n : Nat} (hn : 0 < n) :
    parse (ofCandidate n) = .ok ⟨1, 0, 0, [String.ofList (List.replicate n '1')], []⟩ := by
  have hitem : IsPrereleaseItem (List.replicate n '1') :=
    ⟨(isNumber_replicate isDigit_one (by decide) hn).isIdentifier,
      fun _ => isNumber_replicate isDigit_one (by decide) hn⟩
  have hone : IsNumber ['1'] := isNumber_replicate (n := 1) isDigit_one (by decide) (by decide)
  have hspells : Spells (ofCandidate n) ⟨['1'], ['0'], ['0'], [List.replicate n '1'], []⟩ := by
    refine ⟨⟨hone, isNumber_zero, isNumber_zero, ?_, ?_⟩, .inl ?_⟩
    · simpa using hitem
    · simp
    · simp [ofCandidate, Parts.spelled, Parts.core, marked]
  have hshort : 1 ≤ Numeral.maxDigits := by decide
  exact parse_of_spells hspells ⟨hshort, hshort, hshort⟩

/-- A candidate with a number that is too long cannot be compared, not even with itself. -/
theorem stalledTexts_ofCandidate {n : Nat} (h : Numeral.maxDigits < n) :
    StalledTexts (ofCandidate n) (ofCandidate n) := by
  have hread := parse_ofCandidate (Nat.zero_lt_of_lt h)
  have hdigits : ∀ c ∈ (String.ofList (List.replicate n '1')).toList, IsDigit c := by
    intro c hc
    rw [String.toList_ofList] at hc
    rw [List.eq_of_mem_replicate hc]
    exact isDigit_one
  have hlength : (String.ofList (List.replicate n '1')).length = n := by
    rw [← String.length_toList, String.toList_ofList, List.length_replicate]
  have hnumeric : isNumeric (String.ofList (List.replicate n '1')) = true := by
    refine isNumeric_iff.2 ⟨fun hnil => ?_, hdigits⟩
    rw [← String.length_toList, hnil, List.length_nil] at hlength
    omega
  refine ⟨_, _, hread, hread, rfl, [], _, _, [], [], rfl, rfl, by simp, hnumeric, hnumeric, ?_⟩
  rintro ⟨hshort, -⟩
  have hle := hshort hdigits
  omega

end Version
end ReleaseNotes
