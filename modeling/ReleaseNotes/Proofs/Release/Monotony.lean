/-
More commits.

A more severe kind never leads to an earlier version, and among more commits the most severe kind
that one of them asks for is never less severe.  So a commit that is added never takes a release back
or makes it less severe; and neither the order of the commits counts, nor any of them if the kind is
given.

Main statements:
* `Version.isLE_precedence_successor` — more severe kinds lead to versions that are not earlier;
* `Release.IsMost.severity_le`, `Release.kindOf_monotone` — the kind of a release with more commits;
* `Release.plan_monotone` — the plan of a release with more, with rearranged, or with any commits.
-/
import ReleaseNotes.Proofs.Release.Planning

namespace ReleaseNotes

/-! ### More severe kinds -/

namespace Version

theorem isLE_precedence_of_lt {v w : Version} (h : compare v.core w.core = .lt) :
    (precedence v w).isLE = true := by
  rw [precedence_of_core_lt h]
  rfl

/-- A prerelease that is promoted to a version without a patch number is promoted to the same one
by both kinds; otherwise the higher number is raised. -/
theorem isLE_bump_minor (v : Version) : (precedence (v.bump .patch) (v.bump .minor)).isLE = true := by
  have hsucc : ∀ n : Nat, compare n (n + 1) = .lt := fun n => Nat.compare_eq_lt.2 (by omega)
  by_cases h : v.isPrerelease = true ∧ v.patch = 0
  · obtain ⟨hpre, hpatch⟩ := h
    have hsame : v.bump .patch = v.bump .minor := by simp [bump, hpre, hpatch]
    rw [hsame]
    exact Std.ReflCmp.isLE_rfl
  · have hminor : v.bump .minor = ⟨v.major, v.minor + 1, 0, [], []⟩ := if_neg h
    refine isLE_precedence_of_lt ?_
    rw [hminor]
    by_cases hpre : v.isPrerelease = true
    · simp [bump, hpre, core, List.compare_cons_cons, hsucc]
    · simp [bump, hpre, core, List.compare_cons_cons, hsucc]

theorem isLE_bump_major (v : Version) : (precedence (v.bump .minor) (v.bump .major)).isLE = true := by
  have hsucc : ∀ n : Nat, compare n (n + 1) = .lt := fun n => Nat.compare_eq_lt.2 (by omega)
  by_cases h : v.isPrerelease = true ∧ v.minor = 0 ∧ v.patch = 0
  · obtain ⟨hpre, hminor, hpatch⟩ := h
    have hsame : v.bump .minor = v.bump .major := by simp [bump, hpre, hminor, hpatch]
    rw [hsame]
    exact Std.ReflCmp.isLE_rfl
  · have hmajor : v.bump .major = ⟨v.major + 1, 0, 0, [], []⟩ := if_neg h
    refine isLE_precedence_of_lt ?_
    rw [hmajor]
    by_cases hpre : v.isPrerelease = true ∧ v.patch = 0
    · simp [bump, hpre, core, List.compare_cons_cons, hsucc]
    · simp [bump, hpre, core, List.compare_cons_cons, hsucc]

/-- A more severe kind never leads to an earlier version. -/
theorem isLE_precedence_successor (v? : Option Version) {k k' : ReleaseKind}
    (h : k.severity ≤ k'.severity) :
    (precedence (successor v? k) (successor v? k')).isLE = true := by
  have hminor : (precedence (successor v? .patch) (successor v? .minor)).isLE = true := by
    cases v? with
    | none => decide
    | some v => exact isLE_bump_minor v
  have hmajor : (precedence (successor v? .minor) (successor v? .major)).isLE = true := by
    cases v? with
    | none => decide
    | some v => exact isLE_bump_major v
  have hself : ∀ k, (precedence (successor v? k) (successor v? k)).isLE = true :=
    fun k => Std.ReflCmp.isLE_rfl
  cases k with
  | patch =>
    cases k' with
    | patch => exact hself _
    | minor => exact hminor
    | major => exact Std.TransCmp.isLE_trans hminor hmajor
  | minor =>
    cases k' with
    | patch => exact absurd h (by decide)
    | minor => exact hself _
    | major => exact hmajor
  | major =>
    cases k' with
    | patch => exact absurd h (by decide)
    | minor => exact absurd h (by decide)
    | major => exact hself _

end Version

namespace Release

open Version

/-! ### More commits -/

/-- The most severe kind among more commits is not less severe. -/
theorem IsMost.severity_le {r r' : Release} {k k' : ReleaseKind} (h : r.IsMost k)
    (h' : r'.IsMost k') (hcommits : ∀ c ∈ r.commits.val, c ∈ r'.commits.val) :
    k.severity ≤ k'.severity := by
  obtain ⟨⟨c, hc, hasks⟩, -⟩ := h
  exact h'.2 c (hcommits c hc) k hasks

theorem HasForeign.of_subset {r r' : Release} (h : r.HasForeign)
    (hcommits : ∀ c ∈ r.commits.val, c ∈ r'.commits.val) : r'.HasForeign := by
  obtain ⟨c, hc, hforeign⟩ := h
  exact ⟨c, hcommits c hc, hforeign⟩

/-- If a commit asks for a kind, there is a most severe one that a commit asks for. -/
theorem exists_isMost {r : Release} {c : Commit} {k : ReleaseKind} (hc : c ∈ r.commits.val)
    (hasks : Asks c k) : ∃ k', r.IsMost k' := by
  -- the kinds are tried from the most severe one down
  by_cases hmajor : ∃ c ∈ r.commits.val, Asks c .major
  · refine ⟨.major, hmajor, fun _ _ k' _ => ?_⟩
    cases k' <;> decide
  · by_cases hminor : ∃ c ∈ r.commits.val, Asks c .minor
    · refine ⟨.minor, hminor, fun c' hc' k' hasks' => ?_⟩
      cases k' with
      | major => exact absurd ⟨c', hc', hasks'⟩ hmajor
      | minor | patch => decide
    · refine ⟨k, ⟨c, hc, hasks⟩, fun c' hc' k' hasks' => ?_⟩
      cases k' with
      | major => exact absurd ⟨c', hc', hasks'⟩ hmajor
      | minor => exact absurd ⟨c', hc', hasks'⟩ hminor
      | patch => cases k <;> decide

theorem not_hasForeign_iff {r : Release} :
    ¬ r.HasForeign ↔ ∀ c ∈ r.commits.val, ∃ k?, ReleaseKind.ofMessage c.message = .ok k? := by
  simp only [HasForeign, not_exists, not_and, ReleaseKind.ofMessage_eq_ok_iff]

/-- A release with more commits is of a kind that is not less severe. -/
theorem kindOf_monotone {r r' : Release} {k : ReleaseKind} (hkind : r.kind = none)
    (hkind' : r'.kind = none) (hunderstood : ¬ r'.HasForeign)
    (hcommits : ∀ c ∈ r.commits.val, c ∈ r'.commits.val) (hk : r.kindOf = .ok k) :
    ∃ k', r'.kindOf = .ok k' ∧ k.severity ≤ k'.severity := by
  have hfewer : ¬ r.HasForeign := fun h => hunderstood (h.of_subset hcommits)
  have hmost : r.IsMost k := (((kindOf_outcomes hkind).2 hfewer).1 k).1 hk
  obtain ⟨c, hc, hasks⟩ := hmost.1
  obtain ⟨k', hmost'⟩ := exists_isMost (hcommits c hc) hasks
  exact ⟨k', (((kindOf_outcomes hkind').2 hunderstood).1 k').2 hmost',
    hmost.severity_le hmost' hcommits⟩

/-- The order of the commits does not count. -/
theorem kindOf_perm {r r' : Release} (hkind : r.kind = none) (hkind' : r'.kind = none)
    (hunderstood : ¬ r'.HasForeign) (hperm : r.commits.val.Perm r'.commits.val) :
    r'.kindOf = r.kindOf := by
  have hmem : ∀ c, c ∈ r.commits.val ↔ c ∈ r'.commits.val := fun c => hperm.mem_iff
  have hmost : ∀ k, r.IsMost k ↔ r'.IsMost k := fun k => by simp only [IsMost, hmem]
  have hfewer : ¬ r.HasForeign := fun h => hunderstood (h.of_subset fun c => (hmem c).1)
  obtain ⟨hasked, hnone⟩ := (kindOf_outcomes hkind).2 hfewer
  obtain ⟨hasked', hnone'⟩ := (kindOf_outcomes hkind').2 hunderstood
  by_cases h : ∃ k, r.IsMost k
  · obtain ⟨k, hk⟩ := h
    rw [(hasked k).2 hk, (hasked' k).2 ((hmost k).1 hk)]
  · have h' : ¬ ∃ k, r'.IsMost k := by
      rintro ⟨k, hk⟩
      exact h ⟨k, (hmost k).2 hk⟩
    rw [hnone h, hnone' h', hperm.length_eq]

theorem plan_eq_of_kindOf {r r' : Release} (hprevious : r'.previousVersion = r.previousVersion)
    (hkind : r'.kindOf = r.kindOf) : r'.plan = r.plan := by
  rw [plan, plan, hkind, hprevious]

/-! ### Plans -/

/-- Plans of one version before.  If no kind is given, every message is understood and the numbers
have room, then a release with more commits is planned if one with fewer is, of a kind that is not
less severe and to a version that does not come before the other; and commits in another order have
the same plan, or fail alike.  If a kind is given, the commits do not count at all. -/
theorem plan_monotone {r r' : Release} (hprevious : r'.previousVersion = r.previousVersion) :
    ((∀ t, r.previousVersion = some t → HasRoom t) → r.kind = none → r'.kind = none →
      (∀ c ∈ r.commits.val, ∃ k?, ReleaseKind.ofMessage c.message = .ok k?) →
      (∀ c ∈ r'.commits.val, ∃ k?, ReleaseKind.ofMessage c.message = .ok k?) →
      ((∀ c ∈ r.commits.val, c ∈ r'.commits.val) → ∀ step, r.plan = .ok step →
        ∃ step', r'.plan = .ok step' ∧ step.kind.severity ≤ step'.kind.severity ∧
          ∃ o, compareGiven (.str step'.current) (.str step.current) = .ok o ∧ 0 ≤ sign o) ∧
      (r.commits.val.Perm r'.commits.val → r'.plan = r.plan)) ∧
    ∀ k, r.kind = some k → r'.kind = some k → r'.plan = r.plan := by
  refine ⟨fun hroom hkind hkind' _ hunderstood => ⟨fun hcommits step hstep => ?_, fun hperm => ?_⟩,
    fun k hkind hkind' => ?_⟩
  · rw [← not_hasForeign_iff] at hunderstood
    cases hk : r.kindOf with
    | error f =>
      rw [plan_of_kindOf_error hk] at hstep
      cases hstep
    | ok k =>
      obtain ⟨k', hk', hsevere⟩ := kindOf_monotone hkind hkind' hunderstood hcommits hk
      rw [plan_of_kindOf hk] at hstep
      rw [plan_of_kindOf hk', hprevious]
      -- a step of one kind is made, so the version before can be read, and one of every kind is
      obtain ⟨v?, -, hsteps⟩ | ⟨t, -, hfails⟩ := VersionStep.create_of_hasRoom hroom
      · obtain ⟨hshort, fewer, hfewer, -, hcurrent, hkindOf⟩ := hsteps k
        obtain ⟨hshort', more, hmore, -, hcurrent', hkindOf'⟩ := hsteps k'
        rw [hfewer] at hstep
        cases hstep
        refine ⟨more, hmore, by rwa [hkindOf, hkindOf'], precedence (successor v? k')
          (successor v? k), ?_, ?_⟩
        · rw [hcurrent, hcurrent']
          exact compareGiven_of_release (VersionStep.parse_successor hshort)
            (VersionStep.parse_successor hshort') (isRelease_successor v? k').prerelease
        · have hle := sign_nonpos_iff.2 (isLE_precedence_successor v? hsevere)
          have hswap : precedence (successor v? k') (successor v? k) =
              (precedence (successor v? k) (successor v? k')).swap := Std.OrientedCmp.eq_swap
          rw [hswap, sign_swap]
          omega
      · rw [hfails k] at hstep
        cases hstep
  · exact plan_eq_of_kindOf hprevious
      (kindOf_perm hkind hkind' (not_hasForeign_iff.2 hunderstood) hperm)
  · exact plan_eq_of_kindOf hprevious ((kindOf_of_kind hkind').trans (kindOf_of_kind hkind).symm)

/-- A release of some commits after a candidate. -/
def afterCandidate (commits : { l : List Commit // l ≠ [] }) : Release :=
  ⟨"octo/tool", some "1.4.0-rc.1+7", none, commits, "en"⟩

/-- A commit with a directive. -/
def directed : Commit := ⟨"a1", "fix: typo !RELEASE: patch", "", "ada", "fix", false⟩

/-- A commit that is breaking, although its message does not say so. -/
def breaking : Commit := ⟨"b2", "feat: drop the old format", "", "bob", "feat", true⟩

/-- After a candidate a breaking commit is added, in front or at the end. -/
theorem plan_monotone_candidate :
    ∃ step step', (afterCandidate ⟨[directed], by simp⟩).plan = .ok step ∧ step.kind = .patch ∧
      (afterCandidate ⟨[breaking, directed], by simp⟩).plan = .ok step' ∧
      step.kind.severity ≤ step'.kind.severity ∧
      (∃ o, compareGiven (.str step'.current) (.str step.current) = .ok o ∧ 0 ≤ sign o) ∧
      (afterCandidate ⟨[directed, breaking], by simp⟩).plan = .ok step' := by
  have hroom : ∀ t, (some (Text.ofString "1.4.0-rc.1+7")) = some t → HasRoom t := by
    rintro t ⟨⟩ p hp
    have hspells : Spells (Text.ofString "1.4.0-rc.1+7")
        ⟨['1'], ['4'], ['0'], [['r', 'c'], ['1']], [['7']]⟩ := spells_iff.2 (by decide +kernel)
    rw [hp.unique hspells]
    decide
  have hdirected : ReleaseKind.ofMessage directed.message = .ok (some .patch) :=
    ReleaseKind.ofMessage_of_word (w := "patch") (by decide +kernel) rfl
  have hkinds : [directed].mapM kindOfCommit = .ok [some .patch] := by
    rw [List.mapM_cons, kindOfCommit, hdirected]
    rfl
  have hkind : (afterCandidate ⟨[directed], by simp⟩).kindOf = .ok .patch :=
    (kindOf_of_kinds rfl hkinds).trans rfl
  have hunderstood : ∀ c ∈ [breaking, directed],
      ∃ k?, ReleaseKind.ofMessage c.message = .ok k? := by
    intro c hc
    rcases List.mem_pair.1 hc with rfl | rfl
    · exact ⟨none, ReleaseKind.ofMessage_of_unmarked (by decide +kernel) (by decide +kernel)⟩
    · exact ⟨some .patch, hdirected⟩
  have hfewer : ∀ c ∈ [directed], ∃ k?, ReleaseKind.ofMessage c.message = .ok k? :=
    fun c hc => hunderstood c (List.mem_cons_of_mem _ hc)
  have hswap : [breaking, directed].Perm [directed, breaking] := List.Perm.swap _ _ _
  have hread : parse "1.4.0-rc.1+7" = .ok ⟨1, 4, 0, ["rc", "1"], ["7"]⟩ :=
    parse_of_match? (by decide +kernel) (by decide +kernel)
  obtain ⟨step, hstep, -, -, hpatch⟩ := VersionStep.create_successor
    (VersionStep.mapM_parse hread) (k := .patch) (by decide +kernel)
  have hplan : (afterCandidate ⟨[directed], by simp⟩).plan = .ok step :=
    (plan_of_kindOf hkind).trans hstep
  obtain ⟨hmore, -⟩ := plan_monotone
    (show (afterCandidate ⟨[breaking, directed], by simp⟩).previousVersion =
      (afterCandidate ⟨[directed], by simp⟩).previousVersion from rfl)
  obtain ⟨step', hstep', hsevere, hbehind⟩ :=
    (hmore hroom rfl rfl hfewer hunderstood).1 (fun c hc => List.mem_cons_of_mem _ hc) step hplan
  obtain ⟨hrearranged, -⟩ := plan_monotone
    (show (afterCandidate ⟨[directed, breaking], by simp⟩).previousVersion =
      (afterCandidate ⟨[breaking, directed], by simp⟩).previousVersion from rfl)
  have hsame := (hrearranged hroom rfl rfl hunderstood
    (fun c hc => hunderstood c (hswap.mem_iff.2 hc))).2 hswap
  exact ⟨step, step', hplan, hpatch, hstep', hsevere, hbehind, hsame.trans hstep'⟩

end Release
end ReleaseNotes
