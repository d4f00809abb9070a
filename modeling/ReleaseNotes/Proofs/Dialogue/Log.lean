/-
The log of a dialogue.

What a dialogue logs while it goes, and how the log agrees with the result.  A record of the log
is found by its name.  The records that the model and the tools leave while they are called stand
inside the events of the dialogue and are none of its own; where there are none of a name, the whole
log shows of that name what the dialogue itself logs.

Main statements:
* `Outcome.logged` — the records of a name;
* `Dispatched.logs`, `Worked.logs` — what is logged of one call, and of the calls of a reply;
* `Course.logs_of_ok` — what a dialogue with a result logs, from a position on;
* `Course.logged_waits` — every wait is announced, however a dialogue ends;
* `Course.notices_eq_logged`, `Registry.isQuiet` — the whole log, and tools that do not add to it;
* `Dialogue.run_log_agrees` — a whole dialogue.
-/
import ReleaseNotes.Proofs.Dialogue.Reports
import ReleaseNotes.Proofs.Tool.Execution

namespace ReleaseNotes

open Dialogue

variable {ω α : Type}

/-! ### Records by their names -/

/-- The fields of the record that a log shows of a notice, if the record has the name. -/
def Notice.fields? (name : String) (n : Notice) : Option Json.Fields :=
  if n.record.event = Text.ofString name then some n.record.fields else none

/-- The fields of the record that a log shows of an event of the dialogue itself. -/
def Event.logged? (name : String) : Event → Option Json.Fields
  | noticed n => n.fields? name
  | _ => none

/-- The records of a name that a dialogue logs, in order. -/
def Outcome.logged (o : Outcome ω α) (name : String) : List Json.Fields :=
  o.events.filterMap (Event.logged? name)

namespace Event

variable {name : String}

theorem shallow_logged? (h : name ≠ "call_retrying") : Shallow (logged? name) where
  inside _ := rfl
  retrying n x f := by simp [logged?, Notice.fields?, Notice.record, Text.ofString_inj, h.symm]
  slept _ := rfl

theorem logged?_entered (h : name ≠ "orchestrator_state") (stage : Stage) (n : Nat) :
    logged? name (.noticed (.entered stage n)) = none := by
  simp [logged?, Notice.fields?, Notice.record, Text.ofString_inj, h.symm]

theorem aloof_logged? (hretrying : name ≠ "call_retrying") (hdispatched : name ≠ "tool_dispatched")
    (hfailed : name ≠ "tool_call_failed") : Aloof (logged? name) where
  toShallow := shallow_logged? hretrying
  called _ _ := rfl
  dispatched tool n := by
    simp [logged?, Notice.fields?, Notice.record, Text.ofString_inj, hdispatched.symm]
  callFailed tool f := by
    simp [logged?, Notice.fields?, Notice.record, Text.ofString_inj, hfailed.symm]

end Event

variable {d : Dialogue ω} {system : Text}

/-- A reply, heard or not, is logged under no other name than those of a stage and of a retry. -/
theorem Heard.logged_eq_nil {p : Position} {w : ω} {o : Outcome ω (Text × List ToolCall)}
    {name : String} (hretrying : name ≠ "call_retrying") (hentered : name ≠ "orchestrator_state")
    (h : Heard d system p w o) : o.logged name = [] := by
  -- a question and its answer are no records, and between two attempts only a retry is logged
  have hask : ((d.ask system p.history).run w).events.filterMap (Event.logged? name) = [] := by
    obtain ⟨failures, -, -, hshown⟩ := d.ask_view system p.history w
    rw [hshown _ _ (Event.shallow_logged? hretrying)]
    simp [Event.logged?]
  unfold Outcome.logged
  cases h with
  | unanswered asked | untold asked _ | unread asked _ _ | read asked _ _ =>
    rw [asked] at hask
    simp only [List.cons_append, Event.filterMap_cons_eq, List.filterMap_append, List.filterMap_nil,
      hask, Event.logged?_entered hentered, Option.toList_none, List.append_nil]

/-! ### Tool calls -/

/-- What a log shows of the call that a report is on. -/
def ToolReport.begun (r : ToolReport) : Json.Fields :=
  [("tool", .str r.tool), ("iteration", .nat r.iteration)]

/-- What a log shows of the failure of a tool. -/
def failureFields (tool error : Text) : Json.Fields := [("tool", .str tool), ("error", .str error)]

/-- A record tells the tool of a report and an error, and the report tells the same error. -/
def TellsFailure (fields : Json.Fields) (r : ToolReport) : Prop :=
  ∃ error : Text, fields = failureFields r.tool error ∧
    r.output = "tool " ++ r.tool ++ " failed: " ++ error

/-- What is logged of tool calls agrees with the reports on them. -/
structure Logs (events : List Event) (reports : List ToolReport) : Prop where
  dispatched : events.filterMap (Event.logged? "tool_dispatched") = reports.map ToolReport.begun
  failed : List.Forall₂ TellsFailure (events.filterMap (Event.logged? "tool_call_failed"))
    (reports.filter fun r => !r.ok)

theorem Logs.append {events events' : List Event} {reports reports' : List ToolReport}
    (h : Logs events reports) (h' : Logs events' reports') :
    Logs (events ++ events') (reports ++ reports') where
  dispatched := by rw [List.filterMap_append, List.map_append, h.dispatched, h'.dispatched]
  failed := by
    rw [List.filterMap_append, List.filter_append]
    exact List.rel_append h.failed h'.failed

/-- A reply logs nothing of tool calls, and neither does a stage. -/
theorem Heard.logs {p : Position} {w : ω} {o : Outcome ω (Text × List ToolCall)}
    (h : Heard d system p w o) : Logs o.events [] where
  dispatched := h.logged_eq_nil (by decide) (by decide)
  failed := by
    rw [show o.events.filterMap (Event.logged? "tool_call_failed") = [] from
      h.logged_eq_nil (by decide) (by decide)]
    exact .nil

theorem logs_entered (stage : Stage) (n : Nat) : Logs [.noticed (.entered stage n)] [] where
  dispatched := List.filterMap_cons_none (Event.logged?_entered (by decide) stage n)
  failed := by
    rw [List.filterMap_cons_none (Event.logged?_entered (by decide) stage n)]
    exact .nil

/-- A call that is reported on. -/
theorem Dispatched.logs {iteration : { n : Nat // 1 ≤ n }} {call : ToolCall} {w w' : ω}
    {r : ToolReport} {events : List Event}
    (h : Dispatched d iteration call w ⟨.ok r, w', events⟩) : Logs events [r] := by
  obtain ⟨failures, -, -, hshown⟩ := d.attempt_trial_view call w
  -- the attempts of the call log nothing but retries
  have htrial : ∀ name : String, name ≠ "call_retrying" →
      ((d.attempt (d.trial call)).run w).events.filterMap (Event.logged? name) = [] := by
    intro name hname
    rw [hshown _ _ (Event.shallow_logged? hname)]
    simp [Event.logged?]
  have hbegun := htrial "tool_dispatched" (by decide)
  have hfailed := htrial "tool_call_failed" (by decide)
  cases h with
  | returned tried written =>
    rw [tried] at hbegun hfailed
    refine ⟨?_, ?_⟩
    · rw [Event.filterMap_cons_eq, hbegun]
      simp [Event.logged?, Notice.fields?, Notice.record, report, ToolReport.begun]
    · rw [Event.filterMap_cons_eq, hfailed]
      simp [Event.logged?, Notice.fields?, Notice.record, report, Text.ofString_inj]
  | @told f _ events tried told =>
    rw [tried] at hbegun hfailed
    refine ⟨?_, ?_⟩
    · rw [List.cons_append, Event.filterMap_cons_eq, List.filterMap_append, hbegun]
      simp [Event.logged?, Notice.fields?, Notice.record, report, ToolReport.begun,
        Text.ofString_inj]
    · have hlast : (Event.noticed (.dispatched call.tool iteration) :: events ++
          [Event.noticed (.callFailed call.tool f)]).filterMap (Event.logged? "tool_call_failed") =
            [failureFields call.tool f.message] := by
        rw [List.cons_append, Event.filterMap_cons_eq, List.filterMap_append, hfailed]
        simp [Event.logged?, Notice.fields?, Notice.record, failureFields, Text.ofString_inj]
      rw [hlast]
      exact .cons ⟨f.message, rfl, rfl⟩ .nil

/-- The calls of a reply, one after another. -/
theorem Worked.logs {iteration : { n : Nat // 1 ≤ n }} {calls : List ToolCall} {w : ω}
    {o : Outcome ω (List ToolReport)} (h : Worked d iteration calls w o) {new : List ToolReport}
    (hnew : o.result = .ok new) : Logs o.events new := by
  induction h generalizing new with
  | none =>
    cases hnew
    exact ⟨rfl, .nil⟩
  | broken _ => cases hnew
  | @reported call rest w w' r events o first others ih =>
    cases hrest : o.result with
    | error f =>
      rw [hrest] at hnew
      cases hnew
    | ok rs =>
      rw [hrest] at hnew
      cases hnew
      exact first.logs.append (ih hrest)

/-! ### The end -/

/-- What a log shows of a dialogue that is cut off while these calls are pending. -/
def DialogueResult.cutOff (r : DialogueResult) (pending : List ToolCall) : Json.Fields :=
  [("iterations", .nat r.iterations),
    ("pending_tools", .arr (pending.map fun call => .text call.tool))]

/-- What a log shows of the end of a dialogue. -/
def DialogueResult.finished (r : DialogueResult) : Json.Fields :=
  [("iterations", .nat r.iterations), ("tool_calls", .nat r.reports.length),
    ("truncated", .bool r.truncated)]

/-- What is logged of the end of a dialogue agrees with its result. -/
structure LogsEnd (events : List Event) (r : DialogueResult) : Prop where
  cutOff : ∃ pending, ToolCall.all r.text = .ok pending ∧ r.truncated = !pending.isEmpty ∧
    events.filterMap (Event.logged? "orchestrator_truncated") =
      if r.truncated then [r.cutOff pending] else []
  finished : events.filterMap (Event.logged? "orchestrator_done") = [r.finished]

/-- What is logged before the end under the names of calls, retries and stages does not matter. -/
theorem LogsEnd.preceded {before events : List Event} {r : DialogueResult} (h : LogsEnd events r)
    (hbefore : ∀ name : String, name ≠ "call_retrying" → name ≠ "orchestrator_state" →
      name ≠ "tool_dispatched" → name ≠ "tool_call_failed" →
      before.filterMap (Event.logged? name) = []) : LogsEnd (before ++ events) r := by
  obtain ⟨⟨pending, hpending, htruncated, hcutOff⟩, hfinished⟩ := h
  refine ⟨⟨pending, hpending, htruncated, ?_⟩, ?_⟩
  · rw [List.filterMap_append, hbefore _ (by decide) (by decide) (by decide) (by decide),
      List.nil_append, hcutOff]
  · rw [List.filterMap_append, hbefore _ (by decide) (by decide) (by decide) (by decide),
      List.nil_append, hfinished]

theorem Dialogue.Position.logs_closing (p : Position) (pending : List ToolCall) :
    Logs (p.closing pending) [] := by
  cases pending <;>
    refine ⟨?_, ?_⟩ <;>
    simp [Position.closing, Event.logged?, Notice.fields?, Notice.record, Text.ofString_inj]

theorem Dialogue.Position.logsEnd_closing (p : Position) {text : Text} {pending : List ToolCall}
    (hpending : ToolCall.all text = .ok pending) :
    LogsEnd (p.closing pending) (p.result text pending) := by
  refine ⟨⟨pending, hpending, rfl, ?_⟩, ?_⟩
  · cases pending <;>
      simp [Position.closing, Position.result, Event.logged?, Notice.fields?, Notice.record,
        Text.ofString_inj, DialogueResult.cutOff]
  · cases pending <;>
      simp [Position.closing, Position.result, Event.logged?, Notice.fields?, Notice.record,
        Text.ofString_inj, DialogueResult.finished]

theorem Course.logs_of_ok {left : Nat} {p : Position} {w : ω} {o : Outcome ω DialogueResult}
    (h : Course d system left p w o) {r : DialogueResult} (hr : o.result = .ok r) :
    (∃ new, r.reports = p.reports ++ new ∧ Logs o.events new) ∧ LogsEnd o.events r := by
  induction h with
  | unheard _ | broken _ _ _ => cases hr
  | @concluded left p w w' text calls events heard last =>
    cases hr
    obtain ⟨-, -, hcalls⟩ := heard.trace_of_ok
    refine ⟨⟨[], (List.append_nil _).symm, heard.logs.append (p.logs_closing calls)⟩, ?_⟩
    -- the end is logged behind the reply, which is logged under other names
    exact (p.logsEnd_closing hcalls).preceded fun name hretrying hentered _ _ =>
      heard.logged_eq_nil hretrying hentered
  | @onward left p w w₁ w₂ text calls events₁ events₂ new o heard asks worked rest ih =>
    obtain ⟨⟨new', hreports, hlogs⟩, hend⟩ := ih hr
    refine ⟨⟨new ++ new', ?_, ?_⟩, ?_⟩
    · rw [hreports, ← List.append_assoc]
      rfl
    · -- the calls of this iteration are logged before those of the rest
      exact heard.logs.append ((logs_entered _ _).append ((worked.logs rfl).append hlogs))
    · rw [List.append_cons, ← List.append_assoc]
      refine hend.preceded fun name hretrying hentered hdispatched hfailed => ?_
      have hheard := heard.logged_eq_nil hretrying hentered
      have hwork := worked.filterMap_eq_nil (Event.aloof_logged? hretrying hdispatched hfailed)
      simp only [Outcome.logged] at hheard
      rw [List.filterMap_append, List.filterMap_append, hheard, hwork,
        List.filterMap_cons_none (Event.logged?_entered hentered _ _)]
      rfl

/-! ### Waits -/

/-- The wait that a dialogue announces by an event. -/
def Event.announced? (e : Event) : Option (Option Json) :=
  (e.logged? "call_retrying").map (Json.lookup "wait_seconds")

theorem Event.announced?_noticed {n : Notice} (h : ∀ k x f, n ≠ .retrying k x f) :
    announced? (.noticed n) = none := by
  cases n with
  | retrying k x f => exact absurd rfl (h k x f)
  | _ => simp [announced?, logged?, Notice.fields?, Notice.record, Text.ofString_inj]

/-- Every wait is announced, and nothing else is announced as one. -/
theorem Dialogue.alike_announced? (d : Dialogue ω) :
    d.Alike Event.announced? fun e => e.sleep?.map fun x => some (.float x) where
  asked _ _ := rfl
  answered _ := rfl
  called _ _ := rfl
  service _ _ _ := rfl
  tools _ _ := rfl
  pause n f := by
    simp [RetryPolicy.pause, Event.announced?, Event.logged?, Event.sleep?, Notice.fields?,
      Notice.record, Json.lookup, Text.ofString_inj]
  entered _ _ := Event.announced?_noticed (by simp)
  dispatched _ _ := Event.announced?_noticed (by simp)
  callFailed _ _ := Event.announced?_noticed (by simp)
  cutOff _ _ := Event.announced?_noticed (by simp)
  finished _ _ _ := Event.announced?_noticed (by simp)

/-- A dialogue announces its waits, and no others, however it ends. -/
theorem Course.logged_waits {left : Nat} {p : Position} {w : ω} {o : Outcome ω DialogueResult}
    (h : Course d system left p w o) :
    (o.logged "call_retrying").map (Json.lookup "wait_seconds") =
      o.sleeps.map fun x => some (.float x) := by
  have hviews := h.filterMap_congr d.alike_announced?
  rw [Outcome.logged, Outcome.sleeps, List.map_filterMap, List.map_filterMap]
  exact hviews

/-! ### The whole log -/

/-- The model and the tools log nothing under a name while they are called. -/
structure Dialogue.IsQuiet (d : Dialogue ω) (name : String) : Prop where
  service : ∀ system turns w,
    ((d.service system turns).run w).notices.filterMap (Notice.fields? name) = []
  tools : ∀ call w, ((d.tools call).run w).notices.filterMap (Notice.fields? name) = []

/-- The fields of the record that a log shows of an event, also of one inside. -/
def Event.shown? (name : String) (e : Event) : Option Json.Fields :=
  e.notice?.bind (Notice.fields? name)

theorem filterMap_shown?_inside {o : Outcome ω α} {name : String}
    (hquiet : o.notices.filterMap (Notice.fields? name) = []) :
    o.events.filterMap (Event.shown? name ∘ .inside) =
      o.events.filterMap (Event.logged? name ∘ .inside) := by
  rw [Outcome.notices, List.filterMap_filterMap] at hquiet
  show o.events.filterMap (fun e => e.notice?.bind (Notice.fields? name)) =
    o.events.filterMap fun _ => none
  rw [hquiet]
  simp

theorem Dialogue.IsQuiet.alike {name : String} (h : d.IsQuiet name) :
    d.Alike (Event.shown? name) (Event.logged? name) where
  asked _ _ := rfl
  answered _ := rfl
  called _ _ := rfl
  service system turns w := filterMap_shown?_inside (h.service system turns w)
  tools call w := filterMap_shown?_inside (h.tools call w)
  pause _ _ := rfl
  entered _ _ := rfl
  dispatched _ _ := rfl
  callFailed _ _ := rfl
  cutOff _ _ := rfl
  finished _ _ _ := rfl

/-- A registry logs nothing under a name that its tools do not use, unless it is the name under
which the registry tells of a tool that breaks. -/
theorem Registry.notices_execute {tools : Registry ω} {name : String} (hname : name ≠ "tool_failed")
    (hquiet : ∀ t ∈ tools.tools, ∀ fields w,
      ((t.run fields).run w).notices.filterMap (Notice.fields? name) = [])
    (tool : Text) (given : Json) (w : ω) :
    ((tools.execute tool given).run w).notices.filterMap (Notice.fields? name) = [] := by
  have hran : ∀ {t : Tool ω} {fields : Json.Fields} {o : Outcome ω ToolValue},
      tools.find? tool = some t → (t.run fields).run w = o →
        (o.events.filterMap Event.notice?).filterMap (Notice.fields? name) = [] :=
    fun hfound hrun => hrun ▸ hquiet _ (List.mem_of_find?_eq_some hfound) _ w
  have hbroke : ∀ (t : Tool ω) (f : Failure), Notice.fields? name (.toolBroke t.name f) = none :=
    fun t f => by simp [Notice.fields?, Notice.record, Text.ofString_inj, hname.symm]
  unfold Outcome.notices
  rcases hexecuted : (tools.execute tool given).run w with ⟨result, w', events⟩
  have hexecute := tools.executed_execute tool given w
  rw [hexecuted] at hexecute
  cases hexecute with
  | unknown _ | unfit _ _ => rfl
  | returned found _ ran | passed found _ ran _ =>
    have hevents := hran found ran
    exact hevents
  | @broke t _ f _ _ found _ ran _ =>
    have hevents := hran found ran
    -- the registry tells of the tool that breaks, under its own name
    rw [List.cons_append, List.filterMap_cons_none rfl, List.filterMap_append,
      List.filterMap_append, hevents]
    exact List.filterMap_cons_none (hbroke t f)

theorem Registry.isQuiet (tools : Registry ω) {service : Service ω} (settings : DialogueSettings)
    {name : String} (hname : name ≠ "tool_failed")
    (hservice : ∀ system turns w,
      ((service system turns).run w).notices.filterMap (Notice.fields? name) = [])
    (hquiet : ∀ t ∈ tools.tools, ∀ fields w,
      ((t.run fields).run w).notices.filterMap (Notice.fields? name) = []) :
    Dialogue.IsQuiet ⟨service, tools, settings⟩ name where
  service := hservice
  tools call w := tools.notices_execute hname hquiet call.tool (.obj call.arguments) w

/-- Under a name that the model and the tools do not use, the whole log shows what the dialogue
itself logs. -/
theorem Course.notices_eq_logged {left : Nat} {p : Position} {w : ω} {o : Outcome ω DialogueResult}
    (h : Course d system left p w o) {name : String} (hquiet : d.IsQuiet name) :
    o.notices.filterMap (Notice.fields? name) = o.logged name := by
  rw [Outcome.notices, List.filterMap_filterMap]
  exact h.filterMap_congr hquiet.alike

/-! ### The log and the result -/

/-- What a dialogue logs agrees with its result: every call that it turns to is reported on and no
other, the failures that it logs are those of the reports, every wait is announced, that it is cut
off is logged if the result says so, with the calls that its last reply asks for, and its end is
logged once. -/
structure LogAgrees (d : Dialogue ω) (o : Outcome ω DialogueResult) (r : DialogueResult) :
    Prop where
  dispatched : o.logged "tool_dispatched" = r.reports.map ToolReport.begun
  failed : List.Forall₂ TellsFailure (o.logged "tool_call_failed")
    (r.reports.filter fun e => !e.ok)
  retrying : (o.logged "call_retrying").map (Json.lookup "wait_seconds") =
    o.sleeps.map fun x => some (.float x)
  truncated : ∃ pending, ToolCall.all r.text = .ok pending ∧ r.truncated = !pending.isEmpty ∧
    o.logged "orchestrator_truncated" = if r.truncated then [r.cutOff pending] else []
  finished : o.logged "orchestrator_done" = [r.finished]
  whole : ∀ name, d.IsQuiet name → o.notices.filterMap (Notice.fields? name) = o.logged name

/-- The log of a dialogue with a result agrees with the result. -/
theorem Dialogue.run_log_agrees (d : Dialogue ω) (system user : Text) (w : ω) {r : DialogueResult}
    (hr : ((d.run system user).run w).result = .ok r) :
    LogAgrees d ((d.run system user).run w) r := by
  have hcourse := d.course_run system user w
  obtain ⟨⟨new, hreports, hlogs⟩, hend⟩ := hcourse.logs_of_ok hr
  -- a dialogue starts without reports, so that all of them are new
  obtain rfl : r.reports = new := hreports
  exact {
    dispatched := hlogs.dispatched
    failed := hlogs.failed
    retrying := hcourse.logged_waits
    truncated := hend.cutOff
    finished := hend.finished
    whole := fun name hquiet => hcourse.notices_eq_logged hquiet }

/-- A registry of one tool, which finds seven. -/
def abacus : Registry Rehearsal :=
  ⟨[⟨"count", "", none, fun _ => pure (.data (.str "7"))⟩], by simp⟩

/-- A dialogue of at most two iterations with that tool. -/
def brief : Dialogue Rehearsal := ⟨Rehearsal.service, abacus, ⟨⟨2, by decide⟩, .standard⟩⟩

/-- A model that is busy at first, then asks for a count and for a tool that there is not, and then
for another count. -/
def insistent : Rehearsal :=
  { replies := [.error (.transient "busy" none),
      .ok (.str ("```json\n\x7b\"tool\": \"count\"\x7d\n```\n" ++
        "```json\n\x7b\"tool\": \"weigh\"\x7d\n```")),
      .ok (.str "```json\n\x7b\"tool\": \"count\"\x7d\n```")] }

/-- The rehearsal and the abacus log nothing of their own, so the whole log shows the calls that are
turned to. -/
theorem Dialogue.run_log_agrees_brief :
    ∃ r, ((brief.run "Count." "How many?").run insistent).result = .ok r ∧
      r.truncated = true ∧ r.reports.map (fun e => (e.tool, e.ok)) =
        [(Text.ofString "count", true), (Text.ofString "weigh", false)] ∧
      ((brief.run "Count." "How many?").run insistent).sleeps.length = 1 ∧
      LogAgrees brief ((brief.run "Count." "How many?").run insistent) r ∧
      ((brief.run "Count." "How many?").run insistent).notices.filterMap
        (Notice.fields? "tool_dispatched") = r.reports.map ToolReport.begun := by
  have hshown : ((brief.run "Count." "How many?").run insistent).result.toOption.map
      (fun r => (r.truncated, r.reports.map fun e => (e.tool, e.ok))) =
        some (true, [(Text.ofString "count", true), (Text.ofString "weigh", false)]) := by
    decide +kernel
  have hsleeps : ((brief.run "Count." "How many?").run insistent).sleeps.length = 1 := by
    decide +kernel
  obtain ⟨r, hr, hshown⟩ := Outcome.exists_of_map hshown
  obtain ⟨htruncated, hreports⟩ := Prod.mk.inj hshown
  have hagrees := run_log_agrees brief "Count." "How many?" insistent hr
  have hquiet : brief.IsQuiet "tool_dispatched" := by
    refine abacus.isQuiet _ (by decide) ?_ ?_
    · intro system turns w
      have hevents : (Rehearsal.outcome w.replies).events = [] := by
        rw [Rehearsal.outcome]
        split <;> rfl
      show List.filterMap _ (List.filterMap _ (Rehearsal.outcome w.replies).events) = []
      rw [hevents]
      rfl
    · intro t ht fields w
      rw [List.mem_singleton.1 ht]
      rfl
  exact ⟨r, hr, htruncated, hreports, hsleeps, hagrees,
    (hagrees.whole _ hquiet).trans hagrees.dispatched⟩

end ReleaseNotes
