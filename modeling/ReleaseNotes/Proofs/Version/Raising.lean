/-
Raised versions.

The next version of a kind is a release, and it comes behind the version before it.  So in a row of
versions of which each is raised from the one before, every version comes behind all earlier ones.

Main statements:
* `Version.IsRelease` — a version without prerelease and build;
* `Version.compareGiven_of_parse`, `Version.next_of_parse` — texts that are read;
* `Version.compareGiven_of_release` — a release is compared with every version;
* `Version.precedence_bump` — the next version of any kind comes behind the version before;
* `Version.successor`, `Version.raised` — the version that follows, and a row of such versions;
* `Version.pairwise_raised` — every version of a row comes behind all earlier ones.
-/
import ReleaseNotes.Proofs.Version.Precedence
import ReleaseNotes.Version.Bump

namespace ReleaseNotes
namespace Version

/-! ### Releases -/

/-- A version without prerelease and build. -/
structure IsRelease (v : Version) : Prop where
  prerelease : v.prerelease = []
  build : v.build = []

theorem isRelease_initial (k : ReleaseKind) : (initial k).IsRelease := by
  cases k <;> exact ⟨rfl, rfl⟩

theorem isRelease_bump (v : Version) (k : ReleaseKind) : (v.bump k).IsRelease := by
  cases k <;> unfold bump <;> dsimp only <;> split <;> exact ⟨rfl, rfl⟩

theorem IsRelease.wellFormed {v : Version} (h : v.IsRelease) (hshort : v.isWritable = true) :
    v.WellFormed := by
  refine ⟨isWritable_iff.1 hshort, ?_, ?_⟩
  · simp [h.prerelease]
  · simp [h.build]

theorem compareGiven_eq (s t : Text) :
    compareGiven (.str s) (.str t) =
      parse s >>= fun v => parse t >>= fun w => (order v w).mapError Failure.numeral := rfl

theorem compareGiven_of_parse {s t : Text} {v w : Version} (hs : parse s = .ok v)
    (ht : parse t = .ok w) :
    compareGiven (.str s) (.str t) = (order v w).mapError Failure.numeral := by
  rw [compareGiven_eq, hs, ht]
  rfl

/-- A text that is read as a release is compared with every other text that is read, even if that
holds a numeral that is too long to be compared with others. -/
theorem compareGiven_of_release {s t : Text} {v w : Version} (hs : parse s = .ok v)
    (ht : parse t = .ok w) (hw : w.prerelease = []) :
    compareGiven (.str t) (.str s) = .ok (precedence w v) := by
  rw [compareGiven_of_parse ht hs, order_of_release hw]
  rfl

/-! ### The next version -/

theorem next_eq (t : Text) (k : ReleaseKind) :
    next (some (.str t)) k =
      parse t >>= fun v => (v.bump k).text.mapError Failure.numeral := rfl

theorem next_of_parse {t : Text} {v : Version} (h : parse t = .ok v) (k : ReleaseKind) :
    next (some (.str t)) k = (v.bump k).text.mapError Failure.numeral := by
  rw [next_eq, h]
  rfl

theorem precedence_of_core_lt {v w : Version} (h : compare v.core w.core = .lt) :
    precedence v w = .lt := by
  unfold precedence compareLex compareOn
  rw [h]
  rfl

/-- A release comes behind its own prereleases. -/
theorem precedence_of_core_eq {v w : Version} (hcore : v.core = w.core)
    (hv : v.isPrerelease = true) (hw : w.prerelease = []) : precedence v w = .lt := by
  have hempty : v.prerelease.isEmpty = false := by simpa [isPrerelease] using hv
  unfold precedence compareLex compareOn
  dsimp only
  rw [hcore, Std.ReflOrd.compare_self, hempty, hw]
  rfl

/-- The next version of any kind comes behind the version before it. -/
theorem precedence_bump (v : Version) (k : ReleaseKind) : precedence v (v.bump k) = .lt := by
  have hsucc : ∀ n : Nat, compare n (n + 1) = .lt := fun n => Nat.compare_eq_lt.2 (by omega)
  -- a prerelease on the line is promoted, so only the kind of release above it changes; any other
  -- version is raised at the number of the kind
  cases k with
  | major =>
    unfold bump
    dsimp only
    split
    · next h =>
      obtain ⟨hpre, hminor, hpatch⟩ := h
      exact precedence_of_core_eq (by simp [core, hminor, hpatch]) hpre rfl
    · apply precedence_of_core_lt
      simp [core, List.compare_cons_cons, hsucc]
  | minor =>
    unfold bump
    dsimp only
    split
    · next h =>
      obtain ⟨hpre, hpatch⟩ := h
      exact precedence_of_core_eq (by simp [core, hpatch]) hpre rfl
    · apply precedence_of_core_lt
      simp [core, List.compare_cons_cons, hsucc]
  | patch =>
    unfold bump
    dsimp only
    split
    · next hpre => exact precedence_of_core_eq rfl hpre rfl
    · apply precedence_of_core_lt
      simp [core, List.compare_cons_cons, hsucc]

/-! ### Rows of versions -/

/-- The version that follows another one, or the first version. -/
def successor : Option Version → ReleaseKind → Version
  | none, k => initial k
  | some v, k => v.bump k

/-- The versions of several kinds, each following the one before. -/
def raised : Option Version → List ReleaseKind → List Version
  | _, [] => []
  | v?, k :: ks => successor v? k :: raised (some (successor v? k)) ks

theorem isRelease_successor (v? : Option Version) (k : ReleaseKind) :
    (successor v? k).IsRelease := by
  cases v? with
  | none => exact isRelease_initial k
  | some v => exact isRelease_bump v k

theorem isRelease_of_mem_raised {v? : Option Version} {ks : List ReleaseKind} {w : Version}
    (h : w ∈ raised v? ks) : w.IsRelease := by
  induction ks generalizing v? with
  | nil => cases h
  | cons k ks ih =>
    rw [raised, List.mem_cons] at h
    rcases h with rfl | h
    · exact isRelease_successor v? k
    · exact ih h

/-- All versions of a row come behind the version that it starts from. -/
theorem precedence_of_mem_raised {v w : Version} {ks : List ReleaseKind}
    (h : w ∈ raised (some v) ks) : precedence v w = .lt := by
  induction ks generalizing v with
  | nil => cases h
  | cons k ks ih =>
    have hnext : precedence v (successor (some v) k) = .lt := precedence_bump v k
    rw [raised, List.mem_cons] at h
    rcases h with rfl | h
    · exact hnext
    · exact Std.TransCmp.lt_trans hnext (ih h)

/-- Every version of a row comes behind all earlier ones. -/
theorem pairwise_raised (v? : Option Version) (ks : List ReleaseKind) :
    (raised v? ks).Pairwise fun v w => precedence v w = .lt := by
  induction ks generalizing v? with
  | nil => exact List.Pairwise.nil
  | cons k ks ih =>
    rw [raised, List.pairwise_cons]
    exact ⟨fun w hw => precedence_of_mem_raised hw, ih _⟩

end Version
end ReleaseNotes
