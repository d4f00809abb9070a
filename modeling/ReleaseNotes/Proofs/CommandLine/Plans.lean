/-
Calls that only plan.

A call that only plans reads the data of a release, sets the log up, checks the data and the
settings, and reports on the plan: it prints the step to the next version, or complains of what
keeps it from being planned.  All that can keep checked data from being planned is complained of.

Main statements:
* `CommandLine.planOf`, `CommandLine.reportOn` — the plan for data, and the report on it;
* `CommandLine.isReported_of_planOf` — what keeps data from being planned is complained of;
* `CommandLine.run_of_data` — what comes of a call that only plans;
* `CommandLine.run_planOnly` — the call for a release that has a plan.
-/
import ReleaseNotes.CommandLine.Run
import ReleaseNotes.Proofs.Release.RoundTrip

namespace ReleaseNotes
namespace CommandLine

variable {ω : Type}

/-- What is printed for a release when its version is only planned. -/
def planReport (step : VersionStep) : Report where
  status := 0
  printed := step.toJson.indented .document ++ "\n"

/-- The step that is planned for data, or what keeps it from being planned. -/
def planOf (j : Json) : Except Failure VersionStep := do
  let release ← (Release.check j).orFail Release.model
  release.plan

/-- The report on a plan, or on what keeps it from being made. -/
def reportOn : Except Failure VersionStep → Report
  | .ok step => planReport step
  | .error f => { status := 1, complained := "error: " ++ f.message ++ "\n" }

/-! ### Plans -/

theorem planOf_eq_ok_iff {j : Json} {step : VersionStep} :
    planOf j = .ok step ↔ ∃ release, Release.check j = .ok release ∧ release.plan = .ok step := by
  unfold planOf
  cases Release.check j with
  | ok release => simp [Validated.orFail, bind, Except.bind]
  | bad problems => simp [Validated.orFail, bind, Except.bind]

/-- Problems with a release, and all that a plan fails for, are failures on purpose or values that
cannot be worked with. -/
theorem isReported_of_planOf {j : Json} {f : Failure} (h : planOf j = .error f) :
    (f.isAgent || f.isValue) = true := by
  unfold planOf at h
  cases hcheck : Release.check j with
  | bad problems =>
    rw [hcheck] at h
    cases h
    rfl
  | ok release =>
    rw [hcheck] at h
    have hplan : release.plan = .error f := h
    obtain ⟨given, rfl⟩ | rfl | ⟨given, rfl⟩ | ⟨limit, rfl⟩ := Release.plan_failures hplan
    · rfl
    · rfl
    · rfl
    · rfl

theorem reportOn_status_eq_zero_iff {plan : Except Failure VersionStep} :
    (reportOn plan).status = 0 ↔ ∃ step, plan = .ok step := by
  cases plan <;> simp [reportOn, planReport]

/-! ### Calls -/

variable {s : Surroundings ω} {o : Options}

theorem data_of_input (s : Surroundings ω) {o : Options} (h : o.file? = none) :
    data s o = (Json.decode s.input).mapError .json := by
  unfold data
  rw [h]
  rfl

theorem process_planOnly (honly : o.planOnly = true) {settings : Settings}
    (hsettings : Settings.load s.folder o.config = .ok settings) (j : Json) (world : ω) :
    (process s o j).run world = ⟨.ok (reportOn (planOf j)), world, []⟩ := by
  -- the settings are read between the check and the plan, and nothing comes of them
  have hdocument : (document s o j).run world = ⟨(planOf j).map VersionStep.toJson, world, []⟩ := by
    unfold document planOf
    rw [hsettings, honly]
    cases Release.check j with
    | bad problems => rfl
    | ok release =>
      show (Act.of release.plan >>= fun step => pure step.toJson).run world =
        ⟨release.plan.map VersionStep.toJson, world, []⟩
      cases release.plan <;> rfl
  unfold process
  rw [Act.bind_run, Act.rescue_run, Act.map_run, hdocument]
  cases hplan : planOf j with
  | ok step =>
    have hprinted : (printed step.toJson : Act ω Report) = pure (planReport step) := by
      unfold printed
      rw [step.document_toJson]
      rfl
    dsimp only [Except.map]
    rw [hprinted]
    rfl
  | error f =>
    have hcomplained : (complain f : Act ω Report) = pure (reportOn (.error f)) := by
      unfold complain
      rw [if_pos (isReported_of_planOf hplan)]
      rfl
    dsimp only [Except.map]
    rw [hcomplained]
    rfl

/-- What comes of a call that only plans: the log is set up, the data is read, and there is a report
on the plan. -/
theorem run_of_data {arguments : List String} (hread : read arguments = .run o)
    (honly : o.planOnly = true) (hinput : (o.file?.isNone && s.isTerminal) = false)
    {settings : Settings} (hsettings : Settings.load s.folder o.config = .ok settings) (world : ω) :
    (run s arguments).run world =
      ⟨(LogSetup.ofNames none none s.setting?).bind fun _ =>
        (data s o).map fun j => reportOn (planOf j), world, []⟩ := by
  unfold run
  rw [hread]
  dsimp only
  rw [hinput]
  cases LogSetup.ofNames none none s.setting? with
  | error f => rfl
  | ok setup =>
    cases data s o with
    | error f => rfl
    | ok j => exact process_planOnly honly hsettings j world

/-- The program prints the plan of a release, if that is all it is called for. -/
theorem run_planOnly (s : Surroundings ω) {arguments : List String} {o : Options}
    (hread : read arguments = .run o) (honly : o.planOnly = true)
    (hinput : (o.file?.isNone && s.isTerminal) = false) {setup : LogSetup}
    (hsetup : LogSetup.ofNames none none s.setting? = .ok setup) {settings : Settings}
    (hsettings : Settings.load s.folder o.config = .ok settings) {j : Json}
    (hdata : data s o = .ok j) {r : Release} (hcheck : Release.check j = .ok r)
    {step : VersionStep} (hplan : r.plan = .ok step) (world : ω) :
    (run s arguments).run world = ⟨.ok (planReport step), world, []⟩ := by
  have hplanned : planOf j = .ok step := planOf_eq_ok_iff.2 ⟨r, hcheck, hplan⟩
  rw [run_of_data hread honly hinput hsettings, hsetup, hdata]
  show (⟨.ok (reportOn (planOf j)), world, []⟩ : Outcome ω Report) = _
  rw [hplanned]
  rfl

end CommandLine
end ReleaseNotes
