/-
The reports of a dialogue.

A dialogue with a result has reported on the calls of all its replies but the last, one report for
each call and in their order, and each report tells what the last attempt of its call came to: the
text that the value of the tool is written as, or the failure.

Main statements:
* `Settles` — what a dialogue does with its tools for the sake of one report;
* `Dispatched.settles`, `Worked.settles` — one call, and the calls of a reply;
* `Course.reports_of_ok` — a dialogue with a result, from a position on;
* `Dialogue.run_reports` — a whole dialogue.
-/
import Mathlib.Data.List.Forall2
import ReleaseNotes.Proofs.Dialogue.Stages
import ReleaseNotes.Proofs.Tool.Blocks
import ReleaseNotes.Proofs.Tool.Values
import ReleaseNotes.Rehearsal.Basic

namespace ReleaseNotes

open Dialogue

variable {ω : Type} {d : Dialogue ω} {system : Text}

/-- What a dialogue does with its tools for the sake of one report: it turns to the call and
executes it, again and again while it fails in a way that another attempt may mend, and the last
execution decides what is reported. -/
inductive Settles (d : Dialogue ω) : List ToolStep → ToolReport → Prop
  /-- The last execution returns a value, which is reported as the text that it is written as. -/
  | returned {iteration : { n : Nat // 1 ≤ n }} {call : ToolCall} {failures : List Failure}
      {v : ToolValue} {t : Text} (few : failures.length < d.attempts)
      (transient : ∀ f ∈ failures, f.isTransient = true) (stands : v.Stands t)
      (read : v.IsReadBack t) :
      Settles d
        (.begun call.tool iteration :: failures.map (fun f => .executed call (.error f)) ++
          [.executed call (.ok v)])
        ⟨iteration, call.tool, call.arguments, true, t⟩
  /-- The last execution fails, of an unknown tool or inside a tool. -/
  | failed {iteration : { n : Nat // 1 ≤ n }} {call : ToolCall} {failures : List Failure}
      {f : Failure} (few : failures.length < d.attempts)
      (transient : ∀ f ∈ failures, f.isTransient = true)
      (kind : f.kind = .unknownTool ∨ f.kind = .toolExecution) :
      Settles d
        (.begun call.tool iteration :: failures.map (fun f => .executed call (.error f)) ++
          [.executed call (.error f)])
        ⟨iteration, call.tool, call.arguments, false,
          "tool " ++ call.tool ++ " failed: " ++ f.message⟩

/-- What a report says of its call: the iteration, the tool and the arguments. -/
def ToolReport.origin (r : ToolReport) : Nat × Text × Json.Fields :=
  (r.iteration, r.tool, r.arguments)

/-- What the report on a call of an iteration says of it. -/
def ToolCall.origin (iteration : Nat) (call : ToolCall) : Nat × Text × Json.Fields :=
  (iteration, call.tool, call.arguments)

/-- What is done with the tools while a call is tried. -/
theorem Dialogue.attempt_trial_steps {call : ToolCall} {w w' : ω}
    {result : Except Failure ToolValue} {events : List Event}
    (h : (d.attempt (d.trial call)).run w = ⟨result, w', events⟩) :
    ∃ failures : List Failure, failures.length < d.attempts ∧
      (∀ f ∈ failures, f.isTransient = true) ∧
      events.filterMap Event.toolStep? =
        failures.map (fun f => .executed call (.error f)) ++ [.executed call result] := by
  obtain ⟨failures, hfew, htransient, hview⟩ := d.attempt_trial_view call w
  refine ⟨failures, hfew, htransient, ?_⟩
  have hsteps := hview _ _ Event.shallow_toolStep?
  rw [h] at hsteps
  rw [hsteps, ← List.flatMap_singleton' (failures.map _), List.flatMap_map]
  rfl

/-- A call that is reported on is settled by what is done with the tools. -/
theorem Dispatched.settles {iteration : { n : Nat // 1 ≤ n }} {call : ToolCall} {w w' : ω}
    {r : ToolReport} {events : List Event}
    (h : Dispatched d iteration call w ⟨.ok r, w', events⟩) :
    r.origin = call.origin iteration ∧ Settles d (events.filterMap Event.toolStep?) r := by
  cases h with
  | returned tried written =>
    obtain ⟨failures, hfew, htransient, hsteps⟩ := attempt_trial_steps tried
    refine ⟨rfl, ?_⟩
    simp only [Event.filterMap_cons_eq, hsteps]
    have hstands := ToolValue.encode_eq_ok_iff.1 written
    exact .returned hfew htransient hstands hstands.isReadBack
  | told tried told =>
    obtain ⟨failures, hfew, htransient, hsteps⟩ := attempt_trial_steps tried
    refine ⟨rfl, ?_⟩
    simp only [isTold, Bool.or_eq_true, beq_iff_eq] at told
    simp only [List.cons_append, Event.filterMap_cons_eq, List.filterMap_append,
      List.filterMap_nil, hsteps]
    rw [show (Event.toolStep? (.noticed (.callFailed call.tool _))).toList = [] from rfl,
      List.append_nil, List.append_nil]
    exact .failed hfew htransient told

/-- The calls of a reply are settled one after another. -/
theorem Worked.settles {iteration : { n : Nat // 1 ≤ n }} {calls : List ToolCall} {w : ω}
    {o : Outcome ω (List ToolReport)} (h : Worked d iteration calls w o) {new : List ToolReport}
    (hnew : o.result = .ok new) :
    new.map ToolReport.origin = calls.map (ToolCall.origin iteration) ∧
      ∃ blocks : List (List ToolStep), o.toolSteps = blocks.flatten ∧
        List.Forall₂ (Settles d) blocks new := by
  induction h generalizing new with
  | none =>
    cases hnew
    exact ⟨rfl, [], rfl, .nil⟩
  | broken _ => cases hnew
  | @reported call rest w w' r events o first others ih =>
    cases hrest : o.result with
    | error f =>
      rw [hrest] at hnew
      cases hnew
    | ok rs =>
      rw [hrest] at hnew
      cases hnew
      obtain ⟨horigin, hfirst⟩ := first.settles
      obtain ⟨horigins, blocks, hsteps, hblocks⟩ := ih hrest
      have hsteps : o.events.filterMap Event.toolStep? = blocks.flatten := hsteps
      refine ⟨?_, events.filterMap Event.toolStep? :: blocks, ?_, .cons hfirst hblocks⟩
      · rw [List.map_cons, List.map_cons, horigin, horigins]
      · rw [Outcome.toolSteps, List.filterMap_append, hsteps, List.flatten_cons]

/-- What a dialogue that goes on after an iteration does with its tools: first what the iteration
did. -/
theorem Heard.toolSteps_onward {p : Position} {w w' : ω}
    {result : Except Failure (Text × List ToolCall)} {events : List Event}
    (heard : Heard d system p w ⟨result, w', events⟩) (work rest : List Event) :
    (events ++ .noticed (.entered .dispatchingTools p.iteration) :: (work ++ rest)).filterMap
      Event.toolStep? = work.filterMap Event.toolStep? ++ rest.filterMap Event.toolStep? := by
  obtain ⟨-, hquiet, -⟩ := heard.trace
  simp only [List.filterMap_append, Event.filterMap_cons_eq, hquiet]
  rfl

/-- What the reports of a dialogue say of their calls, when its replies so far are these: every call
of every reply but the last, in order, under the number of the reply. -/
def origins (replies : List Text) (first : Nat) : List (Nat × Text × Json.Fields) :=
  (replies.dropLast.zipIdx first).flatMap fun (reply, i) =>
    (ToolCall.scan reply).1.map (ToolCall.origin i)

theorem origins_singleton (reply : Text) (first : Nat) : origins [reply] first = [] := rfl

theorem origins_cons {replies : List Text} (reply : Text) (first : Nat) (h : replies ≠ []) :
    origins (reply :: replies) first =
      (ToolCall.scan reply).1.map (ToolCall.origin first) ++ origins replies (first + 1) := by
  rw [origins, List.dropLast_cons_of_ne_nil h, List.zipIdx_cons, List.flatMap_cons]
  rfl

/-- The reports of a dialogue with a result, from a position on. -/
theorem Course.reports_of_ok {left : Nat} {p : Position} {w : ω} {o : Outcome ω DialogueResult}
    (h : Course d system left p w o) {r : DialogueResult} (hr : o.result = .ok r) :
    ∃ new : List ToolReport, r.reports = p.reports ++ new ∧
      new.map ToolReport.origin = origins o.replies p.iteration ∧
      ∃ blocks : List (List ToolStep), o.toolSteps = blocks.flatten ∧
        List.Forall₂ (Settles d) blocks new := by
  induction h with
  | unheard _ | broken _ _ _ => cases hr
  | @concluded left p w w' text calls events heard last =>
    cases hr
    obtain ⟨-, hreply, -⟩ := heard.trace_of_ok
    obtain ⟨-, hsteps, -⟩ := heard.trace
    obtain ⟨-, hnoreply, -, hnosteps⟩ := p.filterMap_closing calls
    refine ⟨[], (List.append_nil _).symm, ?_, [], ?_, .nil⟩
    · rw [Outcome.replies, List.filterMap_append, hreply, hnoreply, List.append_nil,
        origins_singleton, List.map_nil]
    · rw [Outcome.toolSteps, List.filterMap_append, hsteps, hnosteps]
      rfl
  | @onward left p w w₁ w₂ text calls events₁ events₂ new o heard asks worked rest ih =>
    -- the reports of this iteration stand before those of the rest, and so do their blocks
    obtain ⟨new', hreports, horigins, blocks', hsteps', hblocks'⟩ := ih hr
    obtain ⟨-, -, hcalls⟩ := heard.trace_of_ok
    obtain ⟨hnew, blocks, hsteps, hblocks⟩ := worked.settles rfl
    obtain ⟨earlier, hreplies, -⟩ := rest.replies_of_ok hr
    refine ⟨new ++ new', ?_, ?_, blocks ++ blocks', ?_, List.rel_append hblocks hblocks'⟩
    · rw [hreports, ← List.append_assoc]
      rfl
    · -- the reply of this iteration is not the last one
      have hmore : o.events.filterMap Event.reply? ≠ [] := by
        have : o.events.filterMap Event.reply? = earlier ++ [r.text] := hreplies
        simp [this]
      rw [Outcome.replies, heard.replies_onward worked, origins_cons text p.iteration hmore,
        List.map_append, hnew, horigins, ToolCall.all_eq_ok_iff.1 hcalls]
      rfl
    · have hfirst : events₂.filterMap Event.toolStep? = blocks.flatten := hsteps
      have hrest : o.events.filterMap Event.toolStep? = blocks'.flatten := hsteps'
      rw [Outcome.toolSteps, heard.toolSteps_onward, hfirst, hrest, List.flatten_append]

/-- What the reports of a dialogue tell: every call of every reply but the last is reported on, each
once, in order, and under the number of the reply; and whatever the dialogue did with its tools, it
did for the sake of these reports, one after another. -/
structure Reported (d : Dialogue ω) (o : Outcome ω DialogueResult) (r : DialogueResult) : Prop where
  replies_length : o.replies.length = r.iterations
  all_read : ∀ reply ∈ o.replies, (ToolCall.scan reply).2 = none
  origins_eq : r.reports.map ToolReport.origin = origins o.replies 1
  settled : ∃ blocks : List (List ToolStep), o.toolSteps = blocks.flatten ∧
    List.Forall₂ (Settles d) blocks r.reports

/-- A whole dialogue with a result. -/
theorem Dialogue.run_reports (d : Dialogue ω) (system user : Text) (w : ω) {r : DialogueResult}
    (hr : ((d.run system user).run w).result = .ok r) :
    Reported d ((d.run system user).run w) r := by
  obtain ⟨earlier, hreplies, hearlier, hiterations, calls, hlast, -⟩ :=
    (d.course_run system user w).replies_of_ok hr
  obtain ⟨new, hreports, horigins, hblocks⟩ := (d.course_run system user w).reports_of_ok hr
  simp only [Position.start, List.nil_append] at hiterations hreports horigins
  rw [← hreports] at horigins hblocks
  refine ⟨?_, ?_, horigins, hblocks⟩
  · rw [hreplies, List.length_append, List.length_singleton, hiterations, Nat.add_comm]
  · intro reply hreply
    rw [hreplies, List.mem_append, List.mem_singleton] at hreply
    rcases hreply with hreply | rfl
    · obtain ⟨call, rest, hcalls⟩ := hearlier reply hreply
      rw [ToolCall.all_eq_ok_iff.1 hcalls]
    · rw [ToolCall.all_eq_ok_iff.1 hlast]

/-- A dialogue that counts, with a tool that always finds seven, and one that says it in words. -/
def counting : Dialogue Rehearsal :=
  ⟨Rehearsal.service, fun call => pure (if call.tool = Text.ofString "count" then
    .data (.record [("count", .int 7)]) else .data (.str "seven")), .standard⟩

/-- A model that is busy at first, then asks for a count, as a number and in words, and then knows
it. -/
def counter : Rehearsal :=
  { replies := [.error (.transient "busy" none),
      .ok (.str ("```json\n\x7b\"tool\": \"count\"\x7d\n```\n" ++
        "```json\n\x7b\"tool\": \"say\"\x7d\n```")), .ok (.str "Seven.")] }

/-- A number is reported as indented JSON, and a text as it is. -/
theorem Dialogue.run_reports_counting :
    ∃ r, ((counting.run "Count." "How many?").run counter).result = .ok r ∧
      r.reports.map (fun e => (e.iteration.val, e.tool, e.ok, e.output)) =
        [(1, Text.ofString "count", true, Text.ofString "\x7b\n  \"count\": 7\n\x7d"),
          (1, Text.ofString "say", true, Text.ofString "seven")] ∧
      Reported counting ((counting.run "Count." "How many?").run counter) r := by
  have hshown : ((counting.run "Count." "How many?").run counter).result.toOption.map
      (fun r => r.reports.map fun e => (e.iteration.val, e.tool, e.ok, e.output)) =
        some [(1, Text.ofString "count", true, Text.ofString "\x7b\n  \"count\": 7\n\x7d"),
          (1, Text.ofString "say", true, Text.ofString "seven")] := by decide +kernel
  cases hr : ((counting.run "Count." "How many?").run counter).result with
  | error f =>
    rw [hr] at hshown
    cases hshown
  | ok r =>
    rw [hr] at hshown
    exact ⟨r, rfl, by simpa [Except.toOption] using hshown,
      run_reports counting "Count." "How many?" counter hr⟩

end ReleaseNotes
