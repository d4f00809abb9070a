/-
Steps forward.

A value is checked to be a step exactly if it tells a version that can be read and a kind, and, if it
tells a version before that, this can be read too and comes before it.  Whatever else is wrong is
reported as a problem of the value.  No assignment changes a step, so every step stays a step
forward.

Main statements:
* `VersionStep.IsForward`, `VersionStep.problem?_eq_none_iff` — the versions of a step;
* `VersionStep.isValue_of_problem?` — whatever keeps two versions from being those of a step is a
  value that a call cannot work with;
* `VersionStep.Tells` — what the fields of an object tell of a step;
* `ModelEntry.assignAll_frozen` — assignments to a frozen value;
* `VersionStep.check_forward` — which values are steps, and what becomes of them.
-/
import Mathlib.Data.List.Forall2
import ReleaseNotes.Models
import ReleaseNotes.Proofs.Release.Succession
import ReleaseNotes.Proofs.Validation.Passing
import ReleaseNotes.Proofs.Version.Overlong

namespace ReleaseNotes
namespace VersionStep

open Version

/-! ### The versions of a step -/

/-- A version can be read, and it comes behind the version before it, which can be read too. -/
structure IsForward (previous : Option Text) (current : Text) : Prop where
  current_read : ∃ v, parse current = .ok v
  previous_read : ∀ p, previous = some p → ∃ w, parse p = .ok w
  behind : ∀ p, previous = some p → compareGiven (.str current) (.str p) = .ok .gt

theorem mapError_eq_ok_iff {ε ε' α : Type} {f : ε → ε'} {e : Except ε α} {a : α} :
    e.mapError f = .ok a ↔ e = .ok a := by
  cases e <;> simp [Except.mapError]

/-- Nothing keeps two versions from being those of a step exactly if they lead forward. -/
theorem problem?_eq_none_iff {previous : Option Text} {current : Text} :
    problem? previous current = none ↔ IsForward previous current := by
  unfold problem?
  cases hcurrent : parse current with
  | error f =>
    constructor
    · intro h
      cases h
    · rintro ⟨⟨v, hv⟩, -, -⟩
      rw [hcurrent] at hv
      cases hv
  | ok v =>
    cases previous with
    | none => exact ⟨fun _ => ⟨⟨v, hcurrent⟩, nofun, nofun⟩, fun _ => rfl⟩
    | some p =>
      dsimp only
      cases hp : parse p with
      | error f =>
        constructor
        · intro h
          cases h
        · rintro ⟨-, hread, -⟩
          obtain ⟨w, hw⟩ := hread p rfl
          rw [hp] at hw
          cases hw
      | ok w =>
        -- both are read, so only their order is left to decide
        have hgiven := compareGiven_of_parse hcurrent hp
        have hforward : IsForward (some p) current ↔ order v w = .ok .gt := by
          rw [← mapError_eq_ok_iff (f := Failure.numeral), ← hgiven]
          constructor
          · exact fun h => h.behind p rfl
          · intro h
            refine ⟨⟨v, hcurrent⟩, ?_, ?_⟩
            · rintro q ⟨⟩
              exact ⟨w, hp⟩
            · rintro q ⟨⟩
              exact h
        rw [hforward]
        dsimp only
        split <;> simp_all

theorem isValue_of_parse {t : Text} {f : Failure} (h : parse t = .error f) : f.isValue = true := by
  cases standing t with
  | read parsed =>
    rw [parsed] at h
    cases h
  | foreign parsed =>
    rw [parsed] at h
    cases h
    rfl
  | overlong parsed =>
    rw [parsed] at h
    cases h
    rfl

/-- Whatever keeps two versions from being those of a step is a value that a call cannot work with,
be it that one of them cannot be read, that they cannot be compared, or that they do not rise. -/
theorem isValue_of_problem? {previous : Option Text} {current : Text} {f : Failure}
    (h : problem? previous current = some f) : f.isValue = true := by
  unfold problem? at h
  split at h
  · next hcurrent =>
    cases h
    exact isValue_of_parse hcurrent
  · cases h
  · split at h
    · next hp =>
      cases h
      exact isValue_of_parse hp
    · split at h <;> cases h <;> rfl

/-! ### The fields of a step -/

/-- What the fields of an object tell of a step. -/
structure Tells (fields : Json.Fields) (previous : Option Text) (current : Text)
    (kind : ReleaseKind) : Prop where
  previous_eq : Json.TellsText "previous" fields previous
  current_eq : Json.lookup "current" fields = some (.str current)
  kind_eq : Json.lookup "release_type" fields = some (.text kind.word)

theorem word_injective {a b : ReleaseKind} (h : a.word = b.word) : a = b := by
  cases a <;> cases b <;> first | rfl | exact absurd h (by decide)

theorem kindCheck_eq_ok_iff {j : Json} {kind : ReleaseKind} :
    Check.choice ReleaseKind.word ReleaseKind.all j = .ok kind ↔ j = .text kind.word := by
  rw [Check.choice_eq_ok_iff fun _ _ _ _ => word_injective]
  have hmem : kind ∈ ReleaseKind.all := by cases kind <;> decide
  simp [hmem]

theorem fields_eq_ok_iff {fields : Json.Fields} {previous : Option Text} {current : Text}
    {kind : ReleaseKind} :
    (((Check.optional fields "previous" none (Check.nullable Check.text)).map
      fun p c k => (p, c, k)).ap
      (Check.required fields "current" Check.text)).ap
      (Check.required fields "release_type" (Check.choice ReleaseKind.word ReleaseKind.all)) =
        .ok (previous, current, kind) ↔
      Tells fields previous current kind ∧ (∀ t, previous = some t → t.hasByte = false) ∧
        current.hasByte = false := by
  simp only [Validated.ap_eq_ok_iff, Validated.map_eq_ok_iff, Check.optional_text_eq_ok_iff,
    Check.required_eq_ok_iff, Check.text_eq_ok_iff, kindCheck_eq_ok_iff]
  constructor
  · rintro ⟨f, k, ⟨g, c, ⟨p, ⟨hp, hbyte⟩, rfl⟩, ⟨jc, hc, rfl, hbyte'⟩, rfl⟩, ⟨jk, hk, rfl⟩, heq⟩
    cases heq
    exact ⟨⟨hp, hc, hk⟩, hbyte, hbyte'⟩
  · rintro ⟨⟨hp, hc, hk⟩, hbyte, hbyte'⟩
    exact ⟨_, kind, ⟨_, current, ⟨previous, ⟨hp, hbyte⟩, rfl⟩, ⟨_, hc, rfl, hbyte'⟩, rfl⟩,
      ⟨_, hk, rfl⟩, rfl⟩

theorem make_eq_ok_iff {input : Json} {previous : Option Text} {current : Text}
    {kind : ReleaseKind} {step : VersionStep} :
    make input previous current kind = .ok step ↔
      step.previous = previous ∧ step.current = current ∧ step.kind = kind := by
  constructor
  · intro h
    unfold make at h
    split at h
    · cases h
      exact ⟨rfl, rfl, rfl⟩
    · cases h
  · rintro ⟨rfl, rfl, rfl⟩
    exact make_of_forward step.forward

theorem make_of_problem? {input : Json} {previous : Option Text} {current : Text}
    {kind : ReleaseKind} {f : Failure} (h : problem? previous current = some f) :
    make input previous current kind = .bad [⟨[], .rule (Text.shown f.message), input⟩] := by
  unfold make
  split
  · next hnone => rw [h] at hnone; cases hnone
  · next g hg =>
    rw [h] at hg
    cases hg
    rfl

theorem IsForward.hasByte_current {previous : Option Text} {current : Text}
    (h : IsForward previous current) : current.hasByte = false := by
  obtain ⟨v, hv⟩ := h.current_read
  exact hasByte_of_parse hv

theorem IsForward.hasByte_previous {previous : Option Text} {current : Text}
    (h : IsForward previous current) : ∀ t, previous = some t → t.hasByte = false := by
  intro t ht
  obtain ⟨w, hw⟩ := h.previous_read t ht
  exact hasByte_of_parse hw

theorem isForward (step : VersionStep) : IsForward step.previous step.current :=
  problem?_eq_none_iff.1 step.forward

/-- What is checked to be a step are the objects whose fields tell it. -/
theorem check_eq_ok_iff {j : Json} {step : VersionStep} :
    check j = .ok step ↔
      ∃ fields, j = .obj fields ∧ Tells fields step.previous step.current step.kind := by
  rw [check, Validated.andThen_eq_ok_iff]
  constructor
  · rintro ⟨⟨p, c, k⟩, hread, hmake⟩
    obtain ⟨fields, rfl, hfields⟩ := Check.object_eq_ok_iff.1 hread
    obtain ⟨htells, -, -⟩ := fields_eq_ok_iff.1 hfields
    obtain ⟨rfl, rfl, rfl⟩ := make_eq_ok_iff.1 hmake
    exact ⟨fields, rfl, htells⟩
  · rintro ⟨fields, rfl, htells⟩
    -- the versions of a step can be read, so there are no bytes among their units
    have hfields := fields_eq_ok_iff.2
      ⟨htells, step.isForward.hasByte_previous, step.isForward.hasByte_current⟩
    exact ⟨_, Check.object_eq_ok_iff.2 ⟨fields, rfl, hfields⟩, make_eq_ok_iff.2 ⟨rfl, rfl, rfl⟩⟩

/-- A rule that fails is the one problem of a value whose fields tell two versions and a kind. -/
theorem check_of_problem? {fields : Json.Fields} {previous : Option Text} {current : Text}
    {kind : ReleaseKind} {f : Failure} (htells : Tells fields previous current kind)
    (hprevious : ∀ t, previous = some t → t.hasByte = false) (hcurrent : current.hasByte = false)
    (h : problem? previous current = some f) :
    check (.obj fields) = .bad [⟨[], .rule (Text.shown f.message), .obj fields⟩] := by
  have hfields := fields_eq_ok_iff.2 ⟨htells, hprevious, hcurrent⟩
  unfold check
  rw [Check.object_eq_ok_iff.2 ⟨fields, rfl, hfields⟩]
  exact make_of_problem? h

theorem check_toJson (step : VersionStep) : check step.toJson = .ok step := by
  refine check_eq_ok_iff.2 ⟨_, rfl, ?_, ?_, ?_⟩
  · cases hprevious : step.previous with
    | none => exact .inr rfl
    | some t => rfl
  · rfl
  · rfl

end VersionStep

/-! ### Assignments -/

namespace ModelEntry

variable {m : ModelEntry}

/-- What comes of an assignment to a frozen value: it is refused, unless the name is no field. -/
def refusal? (m : ModelEntry) (name : Text) (new : Json) : Option Failure :=
  if name.head? = some (.char '_') then none
  else some (.invalid m.name [⟨[.field name.shown], .frozen, new⟩])

theorem assign_frozen (hm : m.frozen = true) (value : Json) (name : Text) (new : Json) :
    m.assign value name new =
      match m.refusal? name new with
      | none => .ok value
      | some f => .error f := by
  unfold assign refusal?
  by_cases hname : name.head? = some (.char '_')
  · rw [if_pos hname, if_pos hname]
  · rw [if_neg hname, if_neg hname, if_pos hm]

/-- No assignments change a frozen value. -/
theorem assignAll_frozen (hm : m.frozen = true) (value : Json) (assignments : List (Text × Json)) :
    m.assignAll value assignments =
      (assignments.map fun (name, new) => m.refusal? name new, value) := by
  induction assignments with
  | nil => rfl
  | cons a rest ih =>
    obtain ⟨name, new⟩ := a
    rw [assignAll, assign_frozen hm, List.map_cons]
    dsimp only
    cases m.refusal? name new with
    | none => simp [ih]
    | some f => simp [ih]

end ModelEntry

namespace VersionStep

/-- An assignment to one of the fields of a step is refused. -/
theorem assign_field (step : VersionStep) {fields : Json.Fields}
    (hfields : step.toJson = .obj fields) {name : Text}
    (hname : (Json.lookup name fields).isSome = true) (new : Json) :
    ∃ f, ModelEntry.versionStep.assign step.toJson name new = .error f ∧ f.kind = .validation := by
  have hmember : name = "previous" ∨ name = "current" ∨ name = "release_type" := by
    cases hfields
    simp only [List.map_cons, List.map_nil, Json.lookup] at hname
    split at hname
    · next h => exact .inl h.symm
    · split at hname
      · next h => exact .inr (.inl h.symm)
      · split at hname
        · next h => exact .inr (.inr h.symm)
        · cases hname
  have hhead : name.head? ≠ some (.char '_') := by
    rcases hmember with rfl | rfl | rfl <;> decide
  rw [ModelEntry.assign_frozen rfl, ModelEntry.refusal?, if_neg hhead]
  exact ⟨_, rfl, rfl⟩

/-! ### All values -/

/-- A value is checked to be a step exactly if it is an object that tells a version, perhaps a
version before it, and a kind, and the versions lead forward; the step is what the object tells.  Any
other value is reported as one that does not fit the model, also where the versions cannot be read
or compared.  Of a step every assignment to a field is refused, and whatever is assigned, it stays
the same step. -/
theorem check_forward (j : Json) :
    (∀ step, check j = .ok step ↔
      ∃ fields, j = .obj fields ∧ Tells fields step.previous step.current step.kind ∧
        IsForward step.previous step.current) ∧
    ((∃ step, check j = .ok step) ↔
      ∃ fields previous current kind, j = .obj fields ∧ Tells fields previous current kind ∧
        IsForward previous current) ∧
    ((¬ ∃ step, check j = .ok step) ↔
      ∃ f, (check j).orFail model = .error f ∧ f.kind = .validation) ∧
    (∀ fields previous current kind f, j = .obj fields → Tells fields previous current kind →
      (∀ t, previous = some t → t.hasByte = false) → current.hasByte = false →
      problem? previous current = some f → f.isValue = true ∧
        (check j).orFail model =
          .error (.invalid model [⟨[], .rule (Text.shown f.message), j⟩])) ∧
    ∀ step, check j = .ok step →
      (∀ fields name new, step.toJson = .obj fields → (Json.lookup name fields).isSome = true →
        ∃ f, ModelEntry.versionStep.assign step.toJson name new = .error f ∧
          f.kind = .validation) ∧
      ∀ assignments : List (Text × Json),
        (ModelEntry.versionStep.assignAll step.toJson assignments).2 = step.toJson ∧
          check step.toJson = .ok step ∧ IsForward step.previous step.current := by
  refine ⟨fun step => ?_, ?_, ?_, ?_, ?_⟩
  · rw [check_eq_ok_iff]
    simp [step.isForward]
  · constructor
    · rintro ⟨step, hstep⟩
      obtain ⟨fields, hj, htells⟩ := check_eq_ok_iff.1 hstep
      exact ⟨fields, _, _, _, hj, htells, step.isForward⟩
    · rintro ⟨fields, previous, current, kind, hj, htells, hforward⟩
      exact ⟨⟨previous, current, kind, problem?_eq_none_iff.2 hforward⟩,
        check_eq_ok_iff.2 ⟨fields, hj, htells⟩⟩
  · cases hcheck : check j with
    | ok step => simp [Validated.orFail]
    | bad problems => simp [Validated.orFail, Failure.kind]
  · rintro fields previous current kind f rfl htells hprevious hcurrent hproblem
    rw [check_of_problem? htells hprevious hcurrent hproblem]
    exact ⟨isValue_of_problem? hproblem, rfl⟩
  · intro step _
    refine ⟨fun fields name new hfields hname => step.assign_field hfields hname new, ?_⟩
    intro assignments
    rw [ModelEntry.assignAll_frozen rfl]
    exact ⟨rfl, check_toJson step, step.isForward⟩

/-- A candidate is followed by its release, which no assignment takes back; versions that differ in
their builds alone do not follow each other. -/
theorem check_forward_promotion :
    (∃ step, check (.record [("previous", .text "v2.0.0-rc.1+5"), ("current", .text "2.0.0"),
        ("release_type", .text "major")]) = .ok step ∧ step.current = "2.0.0" ∧
      (ModelEntry.versionStep.assignAll step.toJson [("current", .text "1.0.0")]).2 =
        step.toJson) ∧
    (check (.record [("previous", .text "1.0.0+1"), ("current", .text "v1.0.0+2"),
        ("release_type", .text "patch")])).orFail model =
      .error (.invalid model [⟨[], .rule
        "Version v1.0.0+2 is not greater than previous version 1.0.0+1.",
        .record [("previous", .text "1.0.0+1"), ("current", .text "v1.0.0+2"),
          ("release_type", .text "patch")]⟩]) := by
  have hforward : problem? (some "v2.0.0-rc.1+5") "2.0.0" = none := by decide +kernel
  have hproblem : problem? (some "1.0.0+1") "v1.0.0+2" = some (.notNewer "v1.0.0+2" "1.0.0+1") := by
    rfl
  constructor
  · have hstep := ((check_forward (.record [("previous", .text "v2.0.0-rc.1+5"),
      ("current", .text "2.0.0"), ("release_type", .text "major")])).1
        ⟨_, _, .major, hforward⟩).2 ⟨_, rfl, ⟨rfl, rfl, rfl⟩, problem?_eq_none_iff.1 hforward⟩
    obtain ⟨-, -, -, -, hfrozen⟩ := check_forward (.record [("previous", .text "v2.0.0-rc.1+5"),
      ("current", .text "2.0.0"), ("release_type", .text "major")])
    obtain ⟨hassigned, -, -⟩ := (hfrozen _ hstep).2 [("current", .text "1.0.0")]
    exact ⟨_, hstep, rfl, hassigned⟩
  · obtain ⟨-, -, -, hrule, -⟩ := check_forward (.record [("previous", .text "1.0.0+1"),
      ("current", .text "v1.0.0+2"), ("release_type", .text "patch")])
    obtain ⟨-, hreport⟩ := hrule _ (some "1.0.0+1") "v1.0.0+2" .patch _ rfl ⟨rfl, rfl, rfl⟩
      (by rintro t ⟨⟩; rfl) rfl hproblem
    rw [hreport]
    rfl

end VersionStep
end ReleaseNotes
