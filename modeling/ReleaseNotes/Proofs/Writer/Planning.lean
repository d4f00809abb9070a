/-
The version of a changelog.

The version of a release is planned before anything else is done.  A release that cannot be planned
is given up without any dealing with the world outside, and the version that is planned is the one
of the changelog, whatever the model and the tools do, the one that the program prints, and the one
that the server tells to follow.

Main statements:
* `Event.Unconcerned` — a view of events that shows nothing of a dialogue;
* `Writer.write_run` — how a changelog is written;
* `Release.answer_of_plan` — a plan, and the question which version follows;
* `Writer.plan_first` — the plan of a release, and all that shows it.
-/
import ReleaseNotes.Proofs.CommandLine.Plans
import ReleaseNotes.Proofs.Dialogue.Endings

namespace ReleaseNotes

open Dialogue

variable {ω : Type}

/-! ### What a dialogue does not do -/

/-- A view that shows nothing of what a dialogue leaves behind. -/
structure Event.Unconcerned {β : Type} (view : Event → Option β) : Prop extends
    Event.Aloof view where
  asked : ∀ system turns, view (.asked system turns) = none
  answered : ∀ reply, view (.answered reply) = none
  entered : ∀ stage n, view (.noticed (.entered stage n)) = none
  cutOff : ∀ n pending, view (.noticed (.cutOff n pending)) = none
  finished : ∀ n calls truncated, view (.noticed (.finished n calls truncated)) = none

/-- Of what a dialogue leaves behind, such a view shows the same as a view of nothing. -/
theorem Event.Unconcerned.alike {β : Type} {view : Event → Option β} (hview : Unconcerned view)
    (d : Dialogue ω) : d.Alike view fun _ => none where
  asked := hview.asked
  answered := hview.answered
  called := hview.called
  service system turns w := by simp [hview.inside]
  tools call w := by simp [hview.inside]
  pause n f := by simp [RetryPolicy.pause, hview.retrying, hview.slept]
  entered := hview.entered
  dispatched := hview.dispatched
  callFailed := hview.callFailed
  cutOff := hview.cutOff
  finished := hview.finished

/-- A dialogue leaves nothing for such a view. -/
theorem Course.filterMap_eq_nil {d : Dialogue ω} {system : Text} {left : Nat} {p : Position} {w : ω}
    {o : Outcome ω DialogueResult} {β : Type} {view : Event → Option β}
    (hview : Event.Unconcerned view) (h : Course d system left p w o) :
    o.events.filterMap view = [] := by
  rw [h.filterMap_congr (hview.alike d)]
  simp

/-- The event itself, if it tells that the work on a changelog begins or ends. -/
def Event.landmark? : Event → Option Event
  | noticed (.started repository previous commits) =>
    some (noticed (.started repository previous commits))
  | noticed (.broke repository f) => some (noticed (.broke repository f))
  | noticed (.completed repository version kind iterations calls truncated) =>
    some (noticed (.completed repository version kind iterations calls truncated))
  | _ => none

theorem Event.unconcerned_landmark? : Unconcerned landmark? where
  inside _ := rfl
  retrying _ _ _ := rfl
  slept _ := rfl
  called _ _ := rfl
  dispatched _ _ := rfl
  callFailed _ _ := rfl
  asked _ _ := rfl
  answered _ := rfl
  entered _ _ := rfl
  cutOff _ _ := rfl
  finished _ _ _ := rfl

/-! ### How a changelog is written -/

namespace Writer

/-- The event that tells that the work on a changelog begins. -/
def start (r : Release) : Event :=
  .noticed (.started r.repository r.previousVersion r.commits.val.length)

/-- The event that tells that the work on a changelog ends well. -/
def finish (r : Release) (out : Changelog) : Event :=
  .noticed (.completed r.repository out.version.current out.version.kind.word out.iterations.toNat
    out.reports.length out.truncated)

/-- The dialogue on a release whose version is planned. -/
def talk (w : Writer ω) (r : Release) (step : VersionStep) : Act ω DialogueResult :=
  (w.dialogue r).run (Prompt.system (w.registry r).describe) (Prompt.user r step)

theorem write_run_of_plan_error (w : Writer ω) {r : Release} {f : Failure}
    (hplan : r.plan = .error f) (world : ω) :
    (w.write r).run world = ⟨.error f, world, [start r, .noticed (.broke r.repository f)]⟩ := by
  unfold write converse
  rw [hplan]
  rfl

/-- A changelog whose version is planned is written by the dialogue. -/
theorem write_run (w : Writer ω) {r : Release} {step : VersionStep} (hplan : r.plan = .ok step)
    (world : ω) :
    let o := (w.talk r step).run world
    (w.write r).run world =
      ⟨o.result.map (Changelog.ofResult step), o.world,
        start r :: o.events ++
          [match o.result with
            | .ok result => finish r (.ofResult step result)
            | .error f => .noticed (.broke r.repository f)]⟩ := by
  intro o
  have hconverse : (w.converse r).run world =
      ⟨o.result.map fun result => (step, result), o.world, o.events⟩ := by
    unfold converse
    rw [hplan]
    show ((w.talk r step >>= fun result => pure (step, result)).run world) = _
    rw [Act.bind_run]
    rcases ho : (w.talk r step).run world with ⟨result, w', events⟩
    have ho : o = ⟨result, w', events⟩ := ho
    rw [ho]
    cases result <;> simp [Except.map]
  unfold write
  rw [Act.bind_run_ok (Act.notice_run _ _), Act.bind_run, Act.rescue_run, hconverse]
  rcases o with ⟨result, w', events⟩
  cases result with
  | ok result => simp [Except.map, Act.bind_run, start, finish, Changelog.ofResult]
  | error f => simp [Except.map, Act.bind_run, start]

/-- The events of the work on a changelog: the first tells that it begins and the last that it ends,
well or not, and no other one tells such a thing. -/
theorem write_events (w : Writer ω) (r : Release) (world : ω) :
    let o := (w.write r).run world
    ∃ between last, o.events = start r :: between ++ [last] ∧
      between.filterMap Event.landmark? = [] ∧
      (∀ out, o.result = .ok out → last = finish r out) ∧
      ∀ f, o.result = .error f → last = .noticed (.broke r.repository f) := by
  intro o
  cases hplan : r.plan with
  | error f =>
    have ho : o = _ := w.write_run_of_plan_error hplan world
    rw [ho]
    refine ⟨[], _, rfl, rfl, nofun, ?_⟩
    intro g hg
    cases hg
    rfl
  | ok step =>
    have ho : o = _ := w.write_run hplan world
    have hquiet : ((w.talk r step).run world).events.filterMap Event.landmark? = [] :=
      ((w.dialogue r).course_run _ _ world).filterMap_eq_nil Event.unconcerned_landmark?
    rw [ho]
    refine ⟨_, _, rfl, hquiet, ?_⟩
    cases ((w.talk r step).run world).result with
    | ok result =>
      refine ⟨?_, nofun⟩
      intro out hout
      cases hout
      rfl
    | error f =>
      refine ⟨nofun, ?_⟩
      intro g hg
      cases hg
      rfl

end Writer

/-! ### Where the plan is shown -/

/-- A plan is the answer to the question which version follows the one before, by the kind of the
release. -/
theorem Release.answer_of_plan {r : Release} {step : VersionStep} (hplan : r.plan = .ok step)
    {k : ReleaseKind} (hkind : r.kindOf = .ok k) :
    VersionQuery.answer ⟨r.previousVersion, k⟩ = .ok step := by
  unfold plan at hplan
  rwa [hkind] at hplan

/-- The server tells the plan of a release to who asks which version follows the one before it, by
the kind of the release. -/
theorem Server.serve_nextVersion_of_plan (s : Server ω) {r : Release} {step : VersionStep}
    (hplan : r.plan = .ok step) {k : ReleaseKind} (hkind : r.kindOf = .ok k) {request : Request}
    (hroute : Route.ofPath? request.path = some .nextVersion) (hmethod : request.method = "POST")
    {fields : Json.Fields} (hread : Body.read request = .ok (.obj fields))
    (hprevious : Json.TellsText "previous" fields r.previousVersion)
    (hlookup : Json.lookup "release_type" fields = some (.text k.word)) (world : ω) :
    ∃ a, ((s.serve request).run world).result = .ok a ∧ a.status = 200 ∧
      a.content = .json step.toJson := by
  have hanswer : ((s.answerOf request .nextVersion).run world).result =
      .ok (Answer.ofJson 200 step.toJson) := by
    rw [answerOf_nextVersion s (Body.check_query hread hprevious hlookup),
      Release.answer_of_plan hplan hkind, ← step.presentable_toJson]
    rfl
  exact ⟨_, s.serve_of_ok hroute hmethod.symm hanswer, rfl, rfl⟩

/-- The version of a release is planned first, and everything that shows it shows the same one.  If
there is no plan, nothing is asked of the world outside and the failure is the one of the plan.  If
there is one, it is the version of the changelog that the dialogue writes, whatever the model and the
tools do; the program prints it when it only plans; and the server tells it to who asks which version
follows the one before, by the kind of the release.  In either case the first event of the work tells
that it begins, and the last one how it ends. -/
theorem Writer.plan_first (w : Writer ω) (r : Release) (world : ω) :
    (∀ f, r.plan = .error f →
      (w.write r).run world = ⟨.error f, world, [start r, .noticed (.broke r.repository f)]⟩) ∧
    (∀ step, r.plan = .ok step →
      (∀ out, ((w.write r).run world).result = .ok out ↔
        ∃ result, ((w.talk r step).run world).result = .ok result ∧
          out = ⟨step, result.text, result.truncated, result.iterations.val, result.reports⟩) ∧
      (∀ (s : CommandLine.Surroundings ω) (arguments : List String) (o : CommandLine.Options)
          (setup : LogSetup) (settings : Settings) (j : Json),
        CommandLine.read arguments = .run o → o.planOnly = true →
        (o.file?.isNone && s.isTerminal) = false →
        LogSetup.ofNames none none s.setting? = .ok setup →
        Settings.load s.folder o.config = .ok settings →
        CommandLine.data s o = .ok j → Release.check j = .ok r →
        (CommandLine.run s arguments).run world = ⟨.ok (CommandLine.planReport step), world, []⟩) ∧
      ∃ k, r.kindOf = .ok k ∧
        ∀ (s : Server ω) (request : Server.Request) (fields : Json.Fields),
          Server.Route.ofPath? request.path = some .nextVersion → request.method = "POST" →
          Server.Body.read request = .ok (.obj fields) →
          Json.TellsText "previous" fields r.previousVersion →
          Json.lookup "release_type" fields = some (.text k.word) →
          ∃ a, ((s.serve request).run world).result = .ok a ∧ a.status = 200 ∧
            a.content = .json step.toJson) ∧
    ∃ between last, ((w.write r).run world).events = start r :: between ++ [last] ∧
      between.filterMap Event.landmark? = [] ∧
      (∀ out, ((w.write r).run world).result = .ok out → last = finish r out) ∧
      ∀ f, ((w.write r).run world).result = .error f →
        last = .noticed (.broke r.repository f) := by
  refine ⟨fun f hf => w.write_run_of_plan_error hf world, ?_, w.write_events r world⟩
  intro step hplan
  refine ⟨?_, ?_, ?_⟩
  · intro out
    rw [w.write_run hplan world]
    show Except.map _ ((w.talk r step).run world).result = _ ↔ _
    cases ((w.talk r step).run world).result with
    | ok result => simp [Except.map, Changelog.ofResult, eq_comm]
    | error f => simp [Except.map]
  · intro s arguments o setup settings j hread honly hinput hsetup hsettings hdata hcheck
    exact CommandLine.run_planOnly s hread honly hinput hsetup hsettings hdata hcheck hplan world
  · cases hkind : r.kindOf with
    | error f =>
      unfold Release.plan at hplan
      rw [hkind] at hplan
      cases hplan
    | ok k =>
      refine ⟨k, rfl, ?_⟩
      intro s request fields hroute hmethod hread hprevious hlookup
      exact s.serve_nextVersion_of_plan hplan hkind hroute hmethod hread hprevious hlookup world

/-- The data of a release of one commit that asks for a minor release. -/
def Server.directed : Json :=
  .record [("repo", .text "octo/tool"), ("commits", .arr [.record [("hash", .text "a1"),
    ("subject", .text "!release: minor"), ("author", .text "ada")]])]

theorem Server.directed_plain : Server.directed.Plain Json.maxDepth := by
  have hcommit : ∀ depth, Json.Plain (depth + 1) (.record [("hash", .text "a1"),
      ("subject", .text "!release: minor"), ("author", .text "ada")]) :=
    fun depth => .record (by decide) fun f hf => by
      simp only [List.mem_cons, List.not_mem_nil, or_false] at hf
      rcases hf with rfl | rfl | rfl <;> exact .str _
  exact .record (by decide) fun f hf => by
    rcases List.mem_pair.1 hf with rfl | rfl
    · exact .str _
    · exact .arr fun v hv => List.mem_singleton.1 hv ▸ hcommit _

theorem Server.exists_plan : ∃ step, (releaseOf "!release: minor").plan = .ok step := by
  obtain ⟨step, hstep, -⟩ := @VersionStep.create_successor none none .minor rfl
    (by decide +kernel)
  exact ⟨step, (Release.plan_of_kindOf rfl).trans hstep⟩

/-- A call that this data is piped to, in an empty folder. -/
def Server.piping : CommandLine.Surroundings Rehearsal where
  isTerminal := false
  input := directed.indented .document
  folder := Folder.ofFiles []
  setting? := fun _ => none
  github := fun _ => Act.fail .missingItem
  languageModel := fun _ => Act.fail .missingItem

/-- The question which version follows if there is none before a minor release. -/
def Server.firstQuestion : String := "\x7b\n  \"release_type\": \"minor\"\n\x7d"

/-- One release is planned by three ways and another one is not planned. -/
theorem Writer.plan_first_minor :
    (∃ events, (Server.silent.writer.write (Server.releaseOf "fix: typo")).run {} =
      ⟨.error (.noDirective 1), {}, events⟩ ∧ events.length = 2) ∧
    ∃ step, (Server.releaseOf "!release: minor").plan = .ok step ∧
      (∃ out, ((Server.silent.writer.write (Server.releaseOf "!release: minor")).run
          { replies := [.ok (.text "- A tool.")] }).result = .ok out ∧
        out.version = step ∧ out.text = "- A tool.") ∧
      (CommandLine.run Server.piping ["--plan-only"]).run {} =
        ⟨.ok (CommandLine.planReport step), {}, []⟩ ∧
      ∃ a, ((Server.silent.serve (Server.posted "/version/next" Server.firstQuestion)).run
          {}).result = .ok a ∧ a.content = .json step.toJson := by
  have hunplanned : (Server.releaseOf "fix: typo").plan = .error (.noDirective 1) := rfl
  obtain ⟨hgiven, -⟩ := Server.silent.writer.plan_first (Server.releaseOf "fix: typo") {}
  refine ⟨⟨_, hgiven _ hunplanned, rfl⟩, ?_⟩
  have hkind : (Server.releaseOf "!release: minor").kindOf = .ok .minor := rfl
  obtain ⟨step, hplan⟩ := Server.exists_plan
  obtain ⟨-, hwritten, -⟩ := Server.silent.writer.plan_first
    (Server.releaseOf "!release: minor") { replies := [.ok (.text "- A tool.")] }
  obtain ⟨-, hshown, -⟩ := Server.silent.writer.plan_first (Server.releaseOf "!release: minor") {}
  refine ⟨step, hplan, ?_, ?_, ?_⟩
  · exact ⟨_, ((hwritten step hplan).1 _).2 ⟨_, rfl, rfl⟩, rfl, rfl⟩
  · have hdata : Json.decode Server.piping.input = .ok Server.directed := by
      rw [← List.append_nil Server.piping.input]
      exact Json.decode_of_reads (Json.reads_indented Server.directed_plain .document 0)
        (by decide +kernel) fun v hv => by cases hv
    refine (hshown step hplan).2.1 _ ["--plan-only"] ⟨none, none, true⟩ _ _ Server.directed
      (by decide +kernel) rfl rfl rfl rfl ?_ rfl
    rw [CommandLine.data_of_input _ rfl, hdata]
    rfl
  · obtain ⟨k, hk, hserve⟩ := (hshown step hplan).2.2
    obtain rfl : ReleaseKind.minor = k := Except.ok.inj (hkind.symm.trans hk)
    have hplain : Json.Plain Json.maxDepth (.record [("release_type", .text "minor")]) :=
      .record (by decide) fun f hf => by
        rw [List.mem_singleton.1 hf]
        exact .str _
    obtain ⟨a, ha, -, hcontent⟩ := hserve Server.silent
      (Server.posted "/version/next" Server.firstQuestion) _ (by decide +kernel) rfl
      (Server.read_posted hplain (by decide +kernel) (by decide +kernel)) (.inl rfl) rfl
    exact ⟨a, ha, hcontent⟩

end ReleaseNotes
