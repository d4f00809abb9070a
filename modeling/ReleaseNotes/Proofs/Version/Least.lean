/-
The least version on a line.

The line of a kind of release is made of the releases whose numbers below that kind are zero.  The
next version of a kind is the first one on the line that comes behind the version before: between
the two there is no other one, so no version is left out and none is given twice.

Main statements:
* `Version.OnLine` — the versions on the line of a kind;
* `Version.precedence_lt_iff_of_isRelease` — the order before a release, by its numbers;
* `Version.IsNext` — the least version on a line behind another version;
* `Version.isNext_bump` — the next version is that one, and no other version is.
-/
import ReleaseNotes.Proofs.Version.Raising

namespace ReleaseNotes
namespace Version

/-- A version on the line of a kind: a release whose numbers below that kind are zero. -/
structure OnLine (k : ReleaseKind) (v : Version) : Prop where
  release : v.IsRelease
  patch : k ≠ .patch → v.patch = 0
  minor : k = .major → v.minor = 0

theorem onLine_bump (v : Version) (k : ReleaseKind) : (v.bump k).OnLine k := by
  refine ⟨isRelease_bump v k, ?_, ?_⟩
  · intro hk
    cases k with
    | major => unfold bump; dsimp only; split <;> rfl
    | minor => unfold bump; dsimp only; split <;> rfl
    | patch => exact absurd rfl hk
  · rintro rfl
    unfold bump
    dsimp only
    split <;> rfl

/-! ### The order before a release -/

theorem compare_core_eq_lt_iff {v w : Version} :
    compare v.core w.core = .lt ↔ v.major < w.major ∨ v.major = w.major ∧
      (v.minor < w.minor ∨ v.minor = w.minor ∧ v.patch < w.patch) := by
  simp only [core, List.compare_cons_cons, List.compare_nil_nil, Ordering.then_eq_lt,
    Nat.compare_eq_lt, Nat.compare_eq_eq]
  simp

theorem core_eq_iff {v w : Version} :
    v.core = w.core ↔ v.major = w.major ∧ v.minor = w.minor ∧ v.patch = w.patch := by
  simp [core]

/-- A version comes before a release exactly if its numbers do, or if it is a prerelease with the
same numbers. -/
theorem precedence_lt_iff_of_isRelease {v w : Version} (hw : w.IsRelease) :
    precedence v w = .lt ↔
      compare v.core w.core = .lt ∨ v.core = w.core ∧ v.isPrerelease = true := by
  have hbelow : (compare v.prerelease.isEmpty w.prerelease.isEmpty).then (prereleaseOrder v w) =
      .lt ↔ v.isPrerelease = true := by
    rw [prereleaseOrder, isPrerelease, hw.prerelease]
    cases v.prerelease with
    | nil => decide
    | cons i p => exact iff_of_true rfl rfl
  unfold precedence compareLex compareOn
  rw [Ordering.then_eq_lt, Std.LawfulEqOrd.compare_eq_iff_eq, hbelow]

theorem IsRelease.not_isPrerelease {v : Version} (h : v.IsRelease) : v.isPrerelease = false := by
  rw [isPrerelease, h.prerelease]
  rfl

/-- Releases come one before the other by their numbers. -/
theorem IsRelease.precedence_lt_iff {v w : Version} (hv : v.IsRelease) (hw : w.IsRelease) :
    precedence v w = .lt ↔ v.major < w.major ∨ v.major = w.major ∧
      (v.minor < w.minor ∨ v.minor = w.minor ∧ v.patch < w.patch) := by
  rw [precedence_lt_iff_of_isRelease hw, compare_core_eq_lt_iff, hv.not_isPrerelease]
  simp

/-! ### The next version -/

/-- A version is the next one behind another version on the line of a kind: it is on that line and
comes behind that version, and so does no version below it. -/
structure IsNext (k : ReleaseKind) (v w : Version) : Prop where
  onLine : w.OnLine k
  behind : (order w v).map sign = .ok 1
  least : ∀ u : Version, u.OnLine k → (order u v).map sign = .ok 1 →
    ∃ s, (order u w).map sign = .ok s ∧ 0 ≤ s

theorem OnLine.order_eq {k : ReleaseKind} {u : Version} (h : u.OnLine k) (v : Version) :
    (order u v).map sign = .ok (sign (precedence u v)) := by
  rw [order_of_release h.release.prerelease]
  rfl

theorem OnLine.behind_iff {k : ReleaseKind} {u v : Version} (h : u.OnLine k) :
    (order u v).map sign = .ok 1 ↔ precedence v u = .lt := by
  have hsign : ∀ o : Ordering, sign o = 1 ↔ o = .gt := by decide
  rw [h.order_eq, Except.ok.injEq, hsign, Std.OrientedCmp.gt_iff_lt]

/-- No version on the line of a kind stands between a version and the next one. -/
theorem OnLine.not_lt_bump {k : ReleaseKind} {u v : Version} (hu : u.OnLine k)
    (h : precedence v u = .lt) : precedence u (v.bump k) ≠ .lt := by
  intro hlt
  rw [precedence_lt_iff_of_isRelease hu.release, compare_core_eq_lt_iff, core_eq_iff] at h
  rw [hu.release.precedence_lt_iff (isRelease_bump v k)] at hlt
  -- a prerelease on the line is promoted to its own numbers; any other version is raised by one at
  -- the number of the kind, and below that number both versions are zero
  cases k with
  | major =>
    have hpatch : u.patch = 0 := hu.patch (by decide)
    have hminor : u.minor = 0 := hu.minor rfl
    by_cases hpre : v.isPrerelease = true ∧ v.minor = 0 ∧ v.patch = 0
    · rw [bump, if_pos hpre] at hlt
      dsimp only at hlt
      omega
    · rw [bump, if_neg hpre] at hlt
      dsimp only at hlt
      rcases h with h | ⟨heq, hv⟩
      · omega
      · exact hpre ⟨hv, by omega, by omega⟩
  | minor =>
    have hpatch : u.patch = 0 := hu.patch (by decide)
    by_cases hpre : v.isPrerelease = true ∧ v.patch = 0
    · rw [bump, if_pos hpre] at hlt
      dsimp only at hlt
      omega
    · rw [bump, if_neg hpre] at hlt
      dsimp only at hlt
      rcases h with h | ⟨heq, hv⟩
      · omega
      · exact hpre ⟨hv, by omega⟩
  | patch =>
    by_cases hpre : v.isPrerelease = true
    · rw [bump, if_pos hpre] at hlt
      dsimp only at hlt
      omega
    · rw [bump, if_neg hpre] at hlt
      dsimp only at hlt
      rcases h with h | ⟨heq, hv⟩
      · omega
      · exact hpre hv

theorem OnLine.order_bump_nonneg {k : ReleaseKind} {u v : Version} (hu : u.OnLine k)
    (h : (order u v).map sign = .ok 1) :
    ∃ s, (order u (v.bump k)).map sign = .ok s ∧ 0 ≤ s := by
  refine ⟨_, hu.order_eq _, ?_⟩
  have hnot := hu.not_lt_bump (hu.behind_iff.1 h)
  have hnonneg : ∀ o : Ordering, o ≠ .lt → 0 ≤ sign o := by decide
  exact hnonneg _ hnot

/-- There is one next version at most. -/
theorem IsNext.unique {k : ReleaseKind} {v w w' : Version} (h : IsNext k v w) (h' : IsNext k v w') :
    w = w' := by
  have hle : ∀ {u w : Version}, IsNext k v u → IsNext k v w → precedence w u ≠ .lt := by
    intro u w hu hw hlt
    obtain ⟨s, hs, hnonneg⟩ := hu.least w hw.onLine hw.behind
    rw [hw.onLine.order_eq, hlt] at hs
    obtain rfl := Except.ok.inj hs
    exact absurd hnonneg (by decide)
  have hnot := hle h h'
  have hnot' := hle h' h
  rw [Ne, h'.onLine.release.precedence_lt_iff h.onLine.release] at hnot
  rw [Ne, h.onLine.release.precedence_lt_iff h'.onLine.release] at hnot'
  have hpre : w.prerelease = w'.prerelease := by
    rw [h.onLine.release.prerelease, h'.onLine.release.prerelease]
  have hbuild : w.build = w'.build := by
    rw [h.onLine.release.build, h'.onLine.release.build]
  have hcore : w.major = w'.major ∧ w.minor = w'.minor ∧ w.patch = w'.patch := by omega
  obtain ⟨hmajor, hminor, hpatch⟩ := hcore
  rcases w with ⟨_, _, _, _, _⟩
  rcases w' with ⟨_, _, _, _, _⟩
  congr

/-- The next version of any kind is the least one on its line that comes behind the version before,
and it is the only one. -/
theorem isNext_bump (v : Version) (k : ReleaseKind) :
    IsNext k v (v.bump k) ∧ ∀ w, IsNext k v w → w = v.bump k := by
  have hnext : IsNext k v (v.bump k) :=
    ⟨onLine_bump v k, (onLine_bump v k).behind_iff.2 (precedence_bump v k),
      fun u hu hbehind => hu.order_bump_nonneg hbehind⟩
  exact ⟨hnext, fun w hw => hw.unique hnext⟩

/-- A candidate of a major release is promoted, and the major release above that comes later. -/
theorem isNext_bump_candidate :
    IsNext .major ⟨2, 0, 0, ["rc", "1"], []⟩ ⟨2, 0, 0, [], []⟩ ∧
      OnLine .major ⟨3, 0, 0, [], []⟩ ∧
      ∃ s, (order ⟨3, 0, 0, [], []⟩ ⟨2, 0, 0, [], []⟩).map sign = .ok s ∧ 0 ≤ s := by
  have hline : OnLine .major ⟨3, 0, 0, [], []⟩ := ⟨⟨rfl, rfl⟩, fun _ => rfl, fun _ => rfl⟩
  obtain ⟨hnext, -⟩ := isNext_bump ⟨2, 0, 0, ["rc", "1"], []⟩ .major
  exact ⟨hnext, hline, hnext.least _ hline rfl⟩

end Version
end ReleaseNotes
