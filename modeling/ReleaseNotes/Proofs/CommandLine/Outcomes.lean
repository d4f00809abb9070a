/-
How a call that only plans ends.

A call that is to plan a version prints the step to it and nothing else, or complains and prints
nothing.  Whatever is wrong with a value is complained of; but a text that cannot be decoded is no
value at all, and it ends the program without a report.

Main statements:
* `CommandLine.Supplies` — the text that a call gets its data from;
* `CommandLine.run_of_supplies` — what comes of a call that only plans;
* `CommandLine.run_planOnly_outcomes` — how such a call ends.
-/
import ReleaseNotes.Proofs.Writer.Planning

namespace ReleaseNotes
namespace CommandLine

variable {ω : Type}

/-- A call gets a text to read the data of a release from: that of the file that it names, or else
the input, which is then no terminal. -/
def Supplies (s : Surroundings ω) (o : Options) (text : Text) : Prop :=
  match o.file? with
  | some file => (s.folder.read file).map Text.ofString = .ok text
  | none => s.isTerminal = false ∧ s.input = text

/-! ### Calls -/

variable {s : Surroundings ω} {o : Options} {text : Text}

theorem data_of_supplies (h : Supplies s o text) :
    data s o = (Json.decode text).mapError .json := by
  unfold Supplies at h
  split at h
  · next file hfile =>
    unfold data
    rw [hfile]
    show ((s.folder.read file).map Text.ofString >>= _) = _
    rw [h]
    rfl
  · next hfile =>
    rw [data_of_input s hfile, h.2]

theorem isSupplied (h : Supplies s o text) : (o.file?.isNone && s.isTerminal) = false := by
  unfold Supplies at h
  split at h
  · next hfile => rw [hfile]; rfl
  · next hfile => rw [h.1, Bool.and_false]

/-- What comes of a call that only plans: the log is set up, the text is decoded, and there is a
report on the plan. -/
theorem run_of_supplies {arguments : List String} (hread : read arguments = .run o)
    (honly : o.planOnly = true) {settings : Settings}
    (hsettings : Settings.load s.folder o.config = .ok settings) (htext : Supplies s o text)
    (world : ω) :
    (run s arguments).run world =
      ⟨(LogSetup.ofNames none none s.setting?).bind fun _ =>
        ((Json.decode text).mapError .json).map fun j => reportOn (planOf j), world, []⟩ := by
  rw [run_of_data hread honly (isSupplied htext) hsettings, data_of_supplies htext]

/-- There is a report exactly if the log can be set up and the text can be decoded. -/
theorem run_eq_ok_iff {arguments : List String} (hread : read arguments = .run o)
    (honly : o.planOnly = true) {settings : Settings}
    (hsettings : Settings.load s.folder o.config = .ok settings) (htext : Supplies s o text)
    (world : ω) {report : Report} :
    ((run s arguments).run world).result = .ok report ↔
      (∃ setup, LogSetup.ofNames none none s.setting? = .ok setup) ∧
        ∃ j, Json.decode text = .ok j ∧ reportOn (planOf j) = report := by
  rw [run_of_supplies hread honly hsettings htext world]
  cases LogSetup.ofNames none none s.setting? with
  | error f => simp [Except.bind]
  | ok setup => cases Json.decode text <;> simp [Except.bind, Except.map, Except.mapError]

/-- What is printed of a plan is the document of its step, which is read as the step. -/
theorem exists_decode_printed (step : VersionStep) :
    ∃ j, Json.decode (planReport step).printed = .ok j ∧ VersionStep.check j = .ok step := by
  obtain ⟨document, hdocument, hread⟩ := step.readsBack .indented
  rw [Json.documentIn_indented, step.document_toJson] at hdocument
  cases hdocument
  refine hread "\n" ?_
  -- the document ends with a line break
  intro u hu
  rw [List.mem_singleton.1 hu]
  rfl

/-- How a call that only plans ends, whatever text it gets and with whatever settings that can be
loaded.  It leaves the world as it is, and there is a report exactly if the log can be set up and
the text can be decoded: a text that cannot be decoded ends the program with this very failure.  A
report is the document of the step that is planned, with no complaint, or it is a complaint that
tells what is wrong with the release or its plan, with nothing printed.  It is the document exactly
if the text is decoded to a release that has a plan. -/
theorem run_planOnly_outcomes {arguments : List String} (hread : read arguments = .run o)
    (honly : o.planOnly = true) {settings : Settings}
    (hsettings : Settings.load s.folder o.config = .ok settings) (htext : Supplies s o text)
    (world : ω) :
    let outcome := (run s arguments).run world
    (outcome.world = world ∧ outcome.events = []) ∧
    ((∃ report, outcome.result = .ok report) ↔
      (∃ setup, LogSetup.ofNames none none s.setting? = .ok setup) ∧
        ∃ j, Json.decode text = .ok j) ∧
    (∀ setup e, LogSetup.ofNames none none s.setting? = .ok setup →
      Json.decode text = .error e → outcome.result = .error (.json e)) ∧
    (∀ report, outcome.result = .ok report → ∃ j, Json.decode text = .ok j ∧
      ((∃ step, planOf j = .ok step ∧ report.status = 0 ∧ report.complained = [] ∧
          report.printed = step.toJson.indented .document ++ "\n" ∧
          ∃ j', Json.decode report.printed = .ok j' ∧ VersionStep.check j' = .ok step) ∨
        ∃ f, planOf j = .error f ∧ report.status = 1 ∧ report.printed = [] ∧
          report.complained = "error: " ++ f.message ++ "\n")) ∧
    ((∃ report, outcome.result = .ok report ∧ report.status = 0) ↔
      (∃ setup, LogSetup.ofNames none none s.setting? = .ok setup) ∧
        ∃ j release step, Json.decode text = .ok j ∧ Release.check j = .ok release ∧
          release.plan = .ok step) := by
  intro outcome
  have houtcome : outcome = _ := run_of_supplies hread honly hsettings htext world
  have hok : ∀ {report}, outcome.result = .ok report ↔ _ :=
    run_eq_ok_iff hread honly hsettings htext world
  refine ⟨?_, ?_, ?_, ?_, ?_⟩
  · rw [houtcome]
    exact ⟨rfl, rfl⟩
  · constructor
    · rintro ⟨report, hreport⟩
      obtain ⟨hsetup, j, hj, -⟩ := hok.1 hreport
      exact ⟨hsetup, j, hj⟩
    · rintro ⟨hsetup, j, hj⟩
      exact ⟨_, hok.2 ⟨hsetup, j, hj, rfl⟩⟩
  · intro setup e hsetup he
    rw [houtcome, hsetup, he]
    rfl
  · intro report hreport
    obtain ⟨-, j, hj, rfl⟩ := hok.1 hreport
    refine ⟨j, hj, ?_⟩
    cases planOf j with
    | ok step => exact .inl ⟨step, rfl, rfl, rfl, rfl, exists_decode_printed step⟩
    | error f => exact .inr ⟨f, rfl, rfl, rfl, rfl⟩
  · constructor
    · rintro ⟨report, hreport, hstatus⟩
      obtain ⟨hsetup, j, hj, rfl⟩ := hok.1 hreport
      obtain ⟨step, hstep⟩ := reportOn_status_eq_zero_iff.1 hstatus
      obtain ⟨release, hcheck, hplan⟩ := planOf_eq_ok_iff.1 hstep
      exact ⟨hsetup, j, release, step, hj, hcheck, hplan⟩
    · rintro ⟨hsetup, j, release, step, hj, hcheck, hplan⟩
      have hstep : planOf j = .ok step := planOf_eq_ok_iff.2 ⟨release, hcheck, hplan⟩
      exact ⟨_, hok.2 ⟨hsetup, j, hj, rfl⟩, reportOn_status_eq_zero_iff.2 ⟨step, hstep⟩⟩

/-- A call that a text is piped to, in an empty folder. -/
def piped (input : Text) : Surroundings Rehearsal := { Server.piping with input := input }

/-- A release is planned, and a value that is no release is complained of. -/
theorem run_planOnly_outcomes_piped :
    (∃ report,
      ((run (piped (Server.directed.indented .document)) ["--plan-only"]).run {}).result =
        .ok report ∧ report.status = 0) ∧
    ∃ report, ((run (piped "[]") ["--plan-only"]).run {}).result = .ok report ∧
      report.status = 1 ∧ report.printed = [] := by
  have hread : read ["--plan-only"] = .run ⟨none, none, true⟩ := by decide +kernel
  constructor
  · have hdecode : Json.decode (Server.directed.indented .document ++ []) = .ok Server.directed :=
      Server.directed_plain.decode_text .indented Json.Reader.blanks_nil
    rw [List.append_nil] at hdecode
    obtain ⟨step, hplan⟩ := Server.exists_plan
    obtain ⟨-, -, -, -, hplanned⟩ := run_planOnly_outcomes
      (s := piped (Server.directed.indented .document)) hread rfl rfl ⟨rfl, rfl⟩ {}
    exact hplanned.2 ⟨⟨_, rfl⟩, _, _, step, hdecode, rfl, hplan⟩
  · obtain ⟨-, hreported, -, hforms, -⟩ := run_planOnly_outcomes (s := piped "[]") hread rfl rfl
      ⟨rfl, rfl⟩ {}
    obtain ⟨report, hreport⟩ := hreported.2 ⟨⟨_, rfl⟩, .arr [], rfl⟩
    obtain ⟨j, hj, ⟨step, hstep, -⟩ | ⟨f, -, hstatus, hprinted, -⟩⟩ := hforms report hreport
    · cases hj
      cases hstep
    · exact ⟨report, hreport, hstatus, hprinted⟩

/-- An opening brace is no JSON, and it ends the program without a report. -/
theorem run_planOnly_outcomes_brace :
    read ["--plan-only"] = .run ⟨none, none, true⟩ ∧
    Settings.load (piped "\x7b").folder none = .ok .standard ∧
    Supplies (piped "\x7b") ⟨none, none, true⟩ "\x7b" ∧
    ((run (piped "\x7b") ["--plan-only"]).run {}).result =
      .error (.json (.malformed .fieldName 1 1 2)) :=
  ⟨by decide +kernel, rfl, ⟨rfl, rfl⟩, rfl⟩

end CommandLine
end ReleaseNotes
