/-
Plans.

The kind of a release is the one that is given, or else the most severe that one of its commits asks
for; so it depends on which commits there are, but not on their order or on how often they come.
From there the plan is a step from the version before, and that is made if this is a version whose
numbers leave room to raise them.

Main statements:
* `VersionStep.create_of_next` — the step to the next version;
* `Version.HasRoom`, `VersionStep.create_of_hasRoom` — numbers that can be raised;
* `ReleaseKind.most?_spec`, `ReleaseKind.most?_eq_some_iff` — the most severe kind;
* `Release.HasForeign`, `Release.IsMost`, `Release.kindOf_outcomes` — the kind of a release;
* `Release.plan_outcomes` — what a plan comes to;
* `Release.plan_failures` — what a plan fails for.
-/
import ReleaseNotes.Proofs.Release.Directives
import ReleaseNotes.Proofs.Release.Succession
import ReleaseNotes.Proofs.Version.Overlong
import ReleaseNotes.Release.Basic

namespace ReleaseNotes

/-! ### Steps to the next version -/

namespace VersionStep

open Version

theorem createFrom_word (previous : Option Json) (k : ReleaseKind) :
    createFrom previous (.text k.word) = create previous k := by
  have hkind : ReleaseKind.read (.text k.word) = .ok k := by cases k <;> rfl
  rw [createFrom, hkind]
  rfl

theorem create_successor {start : Option Text} {v? : Option Version} {k : ReleaseKind}
    (hstart : start.mapM parse = .ok v?) (hshort : (successor v? k).isWritable = true) :
    ∃ step, create (start.map .str) k = .ok step ∧ step.previous = start ∧
      step.current = (successor v? k).print ∧ step.kind = k := by
  rw [← createFrom_word]
  exact createFrom_successor hstart hshort

/-- If there is a next version, a step leads to it. -/
theorem create_of_next {start : Option Text} {k : ReleaseKind} {s : String}
    (h : Version.next (start.map .str) k = .ok s) :
    ∃ step, create (start.map .str) k = .ok step ∧ step.previous = start ∧ step.current = s ∧
      step.kind = k := by
  have hstep : ∀ {v? : Option Version}, start.mapM parse = .ok v? →
      (successor v? k).isWritable = true →
      ∃ step, create (start.map .str) k = .ok step ∧ step.previous = start ∧ step.current = s ∧
        step.kind = k := by
    intro v? hstart hshort
    rw [next_successor hstart hshort] at h
    cases h
    exact create_successor hstart hshort
  cases start with
  | none =>
    have hshort : (initial k).isWritable = true := by cases k <;> decide +kernel
    exact hstep rfl hshort
  | some t =>
    cases standing t with
    | @read v parsed =>
      refine hstep (mapM_parse parsed) ?_
      -- the version is written down, so it is short enough for that
      rw [Option.map_some, next_of_parse parsed k] at h
      by_contra hwritable
      have htext : (v.bump k).text = .error .writing := if_neg hwritable
      rw [htext] at h
      cases h
    | foreign parsed =>
      rw [Option.map_some, next_of_error parsed] at h
      cases h
    | overlong parsed =>
      rw [Option.map_some, next_of_error parsed] at h
      cases h

theorem create_of_next_error {previous : Option Json} {k : ReleaseKind} {f : Failure}
    (h : Version.next previous k = .error f) : create previous k = .error f := by
  rw [create, h]
  rfl

end VersionStep

/-! ### Room for the next version -/

namespace Version

/-- The numbers of a text, if it spells a version, have fewer digits than a number may have. -/
def HasRoom (t : Text) : Prop :=
  ∀ p, Spells t p → p.major.length < Numeral.maxDigits ∧ p.minor.length < Numeral.maxDigits ∧
    p.patch.length < Numeral.maxDigits

theorem HasRoom.not_isOverlong {t : Text} (h : HasRoom t) : ¬ IsOverlong t := by
  rintro ⟨p, hp, hlong⟩
  obtain ⟨hmajor, hminor, hpatch⟩ := h p hp
  exact hlong ⟨hmajor.le, hminor.le, hpatch.le⟩

theorem HasRoom.not_outgrows {t : Text} {v : Version} (h : HasRoom t) (hv : parse t = .ok v)
    (k : ReleaseKind) : ¬ v.Outgrows k := by
  obtain ⟨p, hp, -, rfl⟩ := parse_eq_ok_iff_spells.1 hv
  obtain ⟨hmajor, hminor, hpatch⟩ := h p hp
  refine not_outgrows_of_short ?_ k
  -- the numbers are written as they were spelled
  intro n hn
  simp only [core, Parts.version, List.mem_cons, List.not_mem_nil, or_false] at hn
  rcases hn with rfl | rfl | rfl
  · rwa [hp.1.major.digits_value]
  · rwa [hp.1.minor.digits_value]
  · rwa [hp.1.patch.digits_value]

theorem isWritable_successor {start : Option Text} {v? : Option Version}
    (hroom : ∀ t, start = some t → HasRoom t) (hstart : start.mapM parse = .ok v?)
    (k : ReleaseKind) : (successor v? k).isWritable = true := by
  cases start with
  | none =>
    cases hstart
    cases k <;> decide +kernel
  | some t =>
    obtain ⟨v, hv, rfl⟩ := VersionStep.exists_of_mapM_parse hstart
    exact not_outgrows_iff.1 ((hroom t rfl).not_outgrows hv k)

/-- There is no next version if the one before is none, or if a number has too many digits. -/
theorem next_failures {start : Option Text} {k : ReleaseKind} {f : Failure}
    (h : next (start.map .str) k = .error f) :
    (∃ given, f = .invalidVersion given) ∨ ∃ limit, f = .numeral limit := by
  cases start with
  | none => cases h
  | some t =>
    rw [Option.map_some] at h
    cases standing t with
    | @read v parsed =>
      rw [next_of_parse parsed] at h
      cases htext : (v.bump k).text with
      | ok s =>
        rw [htext] at h
        cases h
      | error limit =>
        rw [htext] at h
        cases h
        exact .inr ⟨limit, rfl⟩
    | foreign parsed =>
      rw [next_of_error parsed] at h
      cases h
      exact .inl ⟨_, rfl⟩
    | overlong parsed _ =>
      rw [next_of_error parsed] at h
      cases h
      exact .inr ⟨_, rfl⟩

end Version

open Version

/-- From a version whose numbers have room, or from none, a step of every kind is made; from a text
that is no version, none of any kind. -/
theorem VersionStep.create_of_hasRoom {start : Option Text}
    (hroom : ∀ t, start = some t → HasRoom t) :
    (∃ v?, start.mapM parse = .ok v? ∧ ∀ k, (successor v? k).isWritable = true ∧
      ∃ step, create (start.map .str) k = .ok step ∧ step.previous = start ∧
        step.current = (successor v? k).print ∧ step.kind = k) ∨
    ∃ t, start = some t ∧
      ∀ k, create (start.map .str) k = .error (.invalidVersion (.str t)) := by
  have hsteps : ∀ {v?}, start.mapM parse = .ok v? → ∀ k, (successor v? k).isWritable = true ∧
      ∃ step, create (start.map .str) k = .ok step ∧ step.previous = start ∧
        step.current = (successor v? k).print ∧ step.kind = k := by
    intro v? hstart k
    have hshort := isWritable_successor hroom hstart k
    exact ⟨hshort, create_successor hstart hshort⟩
  cases start with
  | none => exact .inl ⟨none, rfl, hsteps rfl⟩
  | some t =>
    cases standing t with
    | @read v parsed => exact .inl ⟨some v, mapM_parse parsed, hsteps (mapM_parse parsed)⟩
    | foreign parsed =>
      exact .inr ⟨t, rfl, fun k => create_of_next_error (next_of_error parsed k)⟩
    | overlong _ long => exact absurd long (hroom t rfl).not_isOverlong

/-! ### The most severe kind -/

namespace ReleaseKind

theorem most?_spec (kinds : List (Option ReleaseKind)) :
    match most? kinds with
    | none => ∀ k, some k ∉ kinds
    | some k => some k ∈ kinds ∧ ∀ k', some k' ∈ kinds → k'.severity ≤ k.severity := by
  induction kinds with
  | nil => exact fun k hk => by cases hk
  | cons k? rest ih =>
    cases k? with
    | none =>
      rw [most?]
      split
      · next hnone =>
        rw [hnone] at ih
        intro k hk
        rcases List.mem_cons.1 hk with hk | hk
        · cases hk
        · exact ih k hk
      · next m hm =>
        rw [hm] at ih
        refine ⟨List.mem_cons_of_mem _ ih.1, fun k hk => ?_⟩
        rcases List.mem_cons.1 hk with hk | hk
        · cases hk
        · exact ih.2 k hk
    | some a =>
      rw [most?]
      cases hrest : most? rest with
      | none =>
        rw [hrest] at ih
        refine ⟨List.mem_cons_self, fun k hk => ?_⟩
        rcases List.mem_cons.1 hk with hk | hk
        · cases hk
          exact Nat.le_refl _
        · exact absurd hk (ih k)
      | some m =>
        rw [hrest] at ih
        dsimp only at ih ⊢
        rw [severity_max]
        refine ⟨?_, fun k hk => ?_⟩
        · unfold max
          split
          · exact List.mem_cons_of_mem _ ih.1
          · exact List.mem_cons_self
        · rcases List.mem_cons.1 hk with hk | hk
          · cases hk
            exact Nat.le_max_left _ _
          · exact Nat.le_trans (ih.2 k hk) (Nat.le_max_right _ _)

/-- The most severe of some kinds is the one among them that none of them exceeds. -/
theorem most?_eq_some_iff {kinds : List (Option ReleaseKind)} {k : ReleaseKind} :
    most? kinds = some k ↔
      some k ∈ kinds ∧ ∀ k', some k' ∈ kinds → k'.severity ≤ k.severity := by
  have hspec := most?_spec kinds
  cases hmost : most? kinds with
  | none =>
    rw [hmost] at hspec
    exact ⟨nofun, fun h => absurd h.1 (hspec k)⟩
  | some m =>
    rw [hmost] at hspec
    constructor
    · rintro ⟨⟩
      exact hspec
    · rintro ⟨hmem, hmost⟩
      have hsame : m.severity = k.severity := Nat.le_antisymm (hmost m hspec.1) (hspec.2 k hmem)
      rw [severity_inj.1 hsame]

end ReleaseKind

/-! ### The kind of a release -/

/-- A list is worked through, or one of its items fails. -/
theorem mapM_outcomes {α β ε : Type} (f : α → Except ε β) (l : List α) :
    (∃ bs, l.mapM f = .ok bs ∧ (∀ b, b ∈ bs ↔ ∃ a ∈ l, f a = .ok b) ∧ ∀ a ∈ l, ∃ b, f a = .ok b) ∨
      ∃ a ∈ l, ∃ e, f a = .error e ∧ l.mapM f = .error e := by
  induction l with
  | nil => exact .inl ⟨[], rfl, by simp, by simp⟩
  | cons a l ih =>
    rw [List.mapM_cons]
    cases ha : f a with
    | error e => exact .inr ⟨a, List.mem_cons_self, e, ha, rfl⟩
    | ok b =>
      obtain ⟨bs, hbs, hmem, hall⟩ | ⟨a', ha', e, he, hfails⟩ := ih
      · rw [hbs]
        refine .inl ⟨b :: bs, rfl, fun c => ?_, ?_⟩
        · simp only [List.mem_cons, hmem, or_and_right, exists_or, exists_eq_left, ha,
            Except.ok.injEq, eq_comm (a := c)]
        · intro a' ha'
          rcases List.mem_cons.1 ha' with rfl | ha'
          · exact ⟨b, ha⟩
          · exact hall a' ha'
      · rw [hfails]
        exact .inr ⟨a', List.mem_cons_of_mem _ ha', e, he, rfl⟩

namespace Release

open Directive

/-- A commit asks for a kind of release. -/
def Asks (c : Commit) (k : ReleaseKind) : Prop := kindOfCommit c = .ok (some k)

/-- The message of a commit makes the search for a directive fail. -/
def HasForeign (r : Release) : Prop := ∃ c ∈ r.commits.val, IsForeign c.message

/-- A commit asks for a kind, and none asks for a more severe one. -/
def IsMost (r : Release) (k : ReleaseKind) : Prop :=
  (∃ c ∈ r.commits.val, Asks c k) ∧
    ∀ c ∈ r.commits.val, ∀ k', Asks c k' → k'.severity ≤ k.severity

theorem kindOfCommit_of_isForeign {c : Commit} (h : IsForeign c.message) :
    ∃ given, kindOfCommit c = .error (.notReleaseKind given) := by
  obtain ⟨given, hgiven⟩ := ReleaseKind.ofMessage_fails_iff.2.1 h
  refine ⟨given, ?_⟩
  rw [kindOfCommit, hgiven]
  rfl

theorem isForeign_of_kindOfCommit {c : Commit} {f : Failure} (h : kindOfCommit c = .error f) :
    IsForeign c.message := by
  refine ReleaseKind.ofMessage_fails_iff.1.1 ⟨f, ?_⟩
  cases hmessage : ReleaseKind.ofMessage c.message with
  | error g =>
    rw [kindOfCommit, hmessage] at h
    cases h
    rfl
  | ok k? =>
    rw [kindOfCommit, hmessage] at h
    cases k? <;> cases h

theorem kindOf_of_kind {r : Release} {k : ReleaseKind} (h : r.kind = some k) :
    r.kindOf = .ok k := by
  rw [kindOf, h]
  rfl

theorem kindOf_of_kinds {r : Release} {kinds : List (Option ReleaseKind)} (hkind : r.kind = none)
    (hkinds : r.commits.val.mapM kindOfCommit = .ok kinds) :
    r.kindOf =
      (ReleaseKind.most? kinds).elim (.error (.noDirective r.commits.val.length)) .ok := by
  unfold kindOf
  rw [hkind, hkinds]
  dsimp only [bind, Except.bind]
  cases ReleaseKind.most? kinds <;> rfl

theorem kindOf_of_fails {r : Release} {f : Failure} (hkind : r.kind = none)
    (hfails : r.commits.val.mapM kindOfCommit = .error f) : r.kindOf = .error f := by
  unfold kindOf
  rw [hkind, hfails]
  rfl

/-- The kind of a release for which none is given.  It is the most severe that a commit asks for; if
none asks for any, that is told, unless the message of a commit makes the search fail. -/
theorem kindOf_outcomes {r : Release} (hkind : r.kind = none) :
    (r.HasForeign → ∃ given, r.kindOf = .error (.notReleaseKind given)) ∧
      (¬ r.HasForeign → (∀ k, r.kindOf = .ok k ↔ r.IsMost k) ∧
        ((¬ ∃ k, r.IsMost k) → r.kindOf = .error (.noDirective r.commits.val.length))) := by
  obtain ⟨kinds, hkinds, hmem, hall⟩ | ⟨c, hc, f, hf, hfails⟩ :=
    mapM_outcomes kindOfCommit r.commits.val
  · have hunderstood : ¬ r.HasForeign := by
      rintro ⟨c, hc, hforeign⟩
      obtain ⟨given, hgiven⟩ := kindOfCommit_of_isForeign hforeign
      obtain ⟨k?, hk⟩ := hall c hc
      rw [hgiven] at hk
      cases hk
    have hmost : ∀ k, ReleaseKind.most? kinds = some k ↔ r.IsMost k := by
      intro k
      simp only [ReleaseKind.most?_eq_some_iff, hmem, IsMost, Asks, forall_exists_index, and_imp]
      exact and_congr_right fun _ =>
        ⟨fun h c hc k' hk' => h k' c hc hk', fun h k' c hc hk' => h c hc k' hk'⟩
    refine ⟨fun h => absurd h hunderstood, fun _ => ?_⟩
    rw [kindOf_of_kinds hkind hkinds]
    simp only [← hmost]
    cases ReleaseKind.most? kinds <;> simp
  · -- the first commit that fails decides
    have hforeign := isForeign_of_kindOfCommit hf
    obtain ⟨given, hgiven⟩ := kindOfCommit_of_isForeign hforeign
    rw [hf] at hgiven
    cases hgiven
    exact ⟨fun _ => ⟨given, kindOf_of_fails hkind hfails⟩, fun h => absurd ⟨c, hc, hforeign⟩ h⟩

/-! ### Plans -/

theorem plan_of_kindOf {r : Release} {k : ReleaseKind} (h : r.kindOf = .ok k) :
    r.plan = VersionStep.create (r.previousVersion.map .str) k := by
  rw [plan, h]
  rfl

theorem plan_of_kindOf_error {r : Release} {f : Failure} (h : r.kindOf = .error f) :
    r.plan = .error f := by
  rw [plan, h]
  rfl

/-- If the kind is known and the version before has room, the plan is a step, or the version before is
told to be none. -/
theorem plan_of_hasRoom {r : Release} {k : ReleaseKind}
    (hroom : ∀ t, r.previousVersion = some t → HasRoom t) (hk : r.kindOf = .ok k) :
    (∃ step, r.plan = .ok step) ∨ ∃ given, r.plan = .error (.invalidVersion given) := by
  rw [plan_of_kindOf hk]
  obtain ⟨v?, -, hsteps⟩ | ⟨t, -, hfails⟩ := VersionStep.create_of_hasRoom hroom
  · obtain ⟨-, step, hstep, -⟩ := hsteps k
    exact .inl ⟨step, hstep⟩
  · exact .inr ⟨_, hfails k⟩

/-- The kind of a release is searched for in messages that cannot all be understood. -/
def IsMisread (r : Release) : Prop := r.kind = none ∧ r.HasForeign

/-- What a plan comes to if the version before has room: a step, or the version before is told to be
none, or no commit asks for a release; and only if the kind is searched for in a message whose
leftmost directive is not spelled in ASCII, a word is told to be no kind of release. -/
theorem plan_outcomes {r : Release} (hroom : ∀ t, r.previousVersion = some t → HasRoom t) :
    (r.IsMisread → ∃ given, r.plan = .error (.notReleaseKind given)) ∧
      (¬ r.IsMisread → (∃ step, r.plan = .ok step) ∨
        (∃ given, r.plan = .error (.invalidVersion given)) ∨
        r.plan = .error (.noDirective r.commits.val.length)) := by
  cases hkind : r.kind with
  | some k =>
    refine ⟨?_, fun _ => (plan_of_hasRoom hroom (kindOf_of_kind hkind)).imp_right .inl⟩
    rintro ⟨hnone, -⟩
    rw [hkind] at hnone
    cases hnone
  | none =>
    obtain ⟨hforeign, hunderstood⟩ := kindOf_outcomes hkind
    refine ⟨fun h => ?_, fun h => ?_⟩
    · obtain ⟨given, hgiven⟩ := hforeign h.2
      exact ⟨given, plan_of_kindOf_error hgiven⟩
    · obtain ⟨hmost, hnone⟩ := hunderstood fun hf => h ⟨hkind, hf⟩
      by_cases hasked : ∃ k, r.IsMost k
      · obtain ⟨k, hk⟩ := hasked
        exact (plan_of_hasRoom hroom ((hmost k).2 hk)).imp_right .inl
      · exact .inr (.inr (plan_of_kindOf_error (hnone hasked)))

/-- What a plan fails for, however long its numbers are. -/
theorem plan_failures {r : Release} {f : Failure} (h : r.plan = .error f) :
    (∃ given, f = .notReleaseKind given) ∨ f = .noDirective r.commits.val.length ∨
      (∃ given, f = .invalidVersion given) ∨ ∃ limit, f = .numeral limit := by
  have hkindOf : ∀ {g : Failure}, r.kindOf = .error g → f = g := by
    intro g hg
    rw [plan_of_kindOf_error hg] at h
    cases h
    rfl
  -- once the kind is known, only the version before can be wrong
  have hstep : ∀ {k : ReleaseKind}, r.kindOf = .ok k →
      (∃ given, f = .invalidVersion given) ∨ ∃ limit, f = .numeral limit := by
    intro k hk
    rw [plan_of_kindOf hk] at h
    cases hnext : Version.next (r.previousVersion.map .str) k with
    | ok s =>
      obtain ⟨step, hstep, -⟩ := VersionStep.create_of_next hnext
      rw [hstep] at h
      cases h
    | error g =>
      rw [VersionStep.create_of_next_error hnext] at h
      cases h
      exact Version.next_failures hnext
  cases hkind : r.kind with
  | some k => exact .inr (.inr (hstep (kindOf_of_kind hkind)))
  | none =>
    obtain ⟨hforeign, hunderstood⟩ := kindOf_outcomes hkind
    by_cases hf : r.HasForeign
    · obtain ⟨given, hgiven⟩ := hforeign hf
      exact .inl ⟨given, hkindOf hgiven⟩
    · obtain ⟨hmost, hnone⟩ := hunderstood hf
      by_cases hasked : ∃ k, r.IsMost k
      · obtain ⟨k, hk⟩ := hasked
        exact .inr (.inr (hstep ((hmost k).2 hk)))
      · exact .inr (.inl (hkindOf (hnone hasked)))

end Release
end ReleaseNotes
