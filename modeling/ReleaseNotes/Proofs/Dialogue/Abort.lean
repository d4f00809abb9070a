/-
Dialogues that are given up.

A dialogue over a registry of tools is given up for two reasons only: the model fails in a way that
no other attempt may mend, or a call of the model or of a tool fails in such a way in all the
attempts that the policy allows.  It is given up at once, for the failure of the last attempt.

Main statements:
* `Event.isRegular` — replies that can be read, and values that can be written;
* `Aborts` — the calls that a dialogue is given up for;
* `Ended` — how some part of a dialogue ends, and which calls it consists of;
* `Course.closed` — the calls of a dialogue, from a position on;
* `Dialogue.run_aborts` — a whole dialogue.
-/
import ReleaseNotes.Proofs.Dialogue.Calls
import ReleaseNotes.Proofs.Dialogue.Endings

namespace ReleaseNotes

open Dialogue

variable {ω : Type} {d : Dialogue ω} {system : Text}

/-! ### What can be worked with -/

/-- Whether what a dialogue receives by an event can be worked with: a reply is a text none of whose
blocks overruns a limit of the reader, and the value of a tool can be written. -/
def Event.isRegular : Event → Bool
  | answered (.ok (.str t)) =>
    !t.hasByte && (Fence.bodies t).all fun body => (Fence.overrun? body).isNone
  | answered (.ok _) => false
  | called _ (.ok v) =>
    match v.encode with
    | .ok _ => true
    | .error _ => false
  | _ => true

theorem Event.isRegular_reply {reply : Json} (h : (answered (.ok reply)).isRegular = true) :
    ∃ t, reply = .str t ∧ t.hasByte = false ∧
      (Fence.bodies t).findSome? Fence.overrun? = none := by
  cases reply with
  | str t =>
    simp only [isRegular, Bool.and_eq_true, Bool.not_eq_true', List.all_eq_true,
      Option.isNone_iff_eq_none] at h
    exact ⟨t, rfl, h.1, List.findSome?_eq_none_iff.2 h.2⟩
  | _ => cases h

theorem Event.isRegular_value {call : ToolCall} {v : ToolValue}
    (h : (called call (.ok v)).isRegular = true) : ∃ t, v.encode = .ok t := by
  simp only [isRegular] at h
  split at h
  · next t ht => exact ⟨t, ht⟩
  · cases h

/-! ### The calls that end a dialogue -/

/-- The calls that a dialogue is given up for, and the failure that it is given up with. -/
inductive Aborts (p : RetryPolicy) : Call → Failure → Prop
  /-- The model fails in a way that no other attempt may mend. -/
  | refused {system : Text} {turns : List Turn} {failures : List Failure} {f : Failure}
      (permanent : f.isTransient = false) :
      Aborts p (.model system turns ⟨failures, .error f⟩) f
  /-- The model fails in all the attempts. -/
  | unanswered {system : Text} {turns : List Turn} {failures : List Failure} {f : Failure}
      (transient : ∀ g ∈ failures ++ [f], g.isTransient = true)
      (spent : (failures ++ [f]).length = p.attempts) :
      Aborts p (.model system turns ⟨failures, .error f⟩) f
  /-- A tool fails in all the attempts. -/
  | unexecuted {call : ToolCall} {failures : List Failure} {f : Failure}
      (transient : ∀ g ∈ failures ++ [f], g.isTransient = true)
      (spent : (failures ++ [f]).length = p.attempts) :
      Aborts p (.tool call ⟨failures, .error f⟩) f

section

variable {p : RetryPolicy}

theorem Aborts.unique {call : Call} {f g : Failure} (h : Aborts p call f) (h' : Aborts p call g) :
    f = g := by
  cases h <;> cases h' <;> rfl

theorem Aborts.of_model {turns : List Turn} {failures : List Failure} {f : Failure}
    (h : (Call.model system turns ⟨failures, .error f⟩).Kept p) :
    Aborts p (.model system turns ⟨failures, .error f⟩) f := by
  cases hf : f.isTransient with
  | false => exact .refused hf
  | true =>
    have hspent := Tries.Kept.spent h f rfl hf
    refine .unanswered ?_ (by simpa using hspent)
    simpa [or_imp, forall_and, hf] using Tries.Kept.transient h

theorem Aborts.of_tool {call : ToolCall} {failures : List Failure} {f : Failure}
    (h : (Call.tool call ⟨failures, .error f⟩).Kept p) (hf : f.isTransient = true) :
    Aborts p (.tool call ⟨failures, .error f⟩) f := by
  have hspent := Tries.Kept.spent h f rfl hf
  refine .unexecuted ?_ (by simpa using hspent)
  simpa [or_imp, forall_and, hf] using Tries.Kept.transient h

/-- A dialogue is not given up for any of some calls. -/
def Spared (p : RetryPolicy) (calls : List Call) : Prop := ∀ call ∈ calls, ∀ f, ¬ Aborts p call f

theorem Spared.nil : Spared p [] := by
  intro call hcall
  cases hcall

theorem Spared.append {calls calls' : List Call} (h : Spared p calls) (h' : Spared p calls') :
    Spared p (calls ++ calls') := by
  intro call hcall
  rcases List.mem_append.1 hcall with hcall | hcall
  · exact h call hcall
  · exact h' call hcall

theorem Spared.singleton {call : Call} (h : ∀ f, ¬ Aborts p call f) : Spared p [call] := by
  intro c hc f
  rw [List.mem_singleton.1 hc]
  exact h f

theorem Spared.of_model_ok {turns : List Turn} {failures : List Failure} {reply : Json} :
    Spared p [.model system turns ⟨failures, .ok reply⟩] := by
  refine .singleton fun f h => ?_
  cases h

theorem Spared.of_tool_ok {call : ToolCall} {failures : List Failure} {v : ToolValue} :
    Spared p [.tool call ⟨failures, .ok v⟩] := by
  refine .singleton fun f h => ?_
  cases h

/-- What the model is told of is no reason to give a dialogue up. -/
theorem Spared.of_told {call : ToolCall} {failures : List Failure} {f : Failure}
    (hf : isTold f = true) : Spared p [.tool call ⟨failures, .error f⟩] := by
  refine .singleton fun g h => ?_
  cases h with
  | unexecuted transient _ =>
    have htransient := transient f (by simp)
    rw [isTransient_of_isTold hf] at htransient
    cases htransient

end

/-! ### How a part of a dialogue ends -/

/-- How a part of a dialogue ends that consists of some calls: with a result if it is given up for
none of them, and otherwise with the last of them, for which it is given up. -/
inductive Ended {α : Type} (p : RetryPolicy) (events : List Event) :
    Except Failure α → List Call → Prop
  | returned {a : α} {calls : List Call} (spared : Spared p calls) : Ended p events (.ok a) calls
  | aborted {f : Failure} {calls : List Call} {call : Call} (spared : Spared p calls)
      (aborts : Aborts p call f) (last : events.getLast? = some call.ending) :
      Ended p events (.error f) (calls ++ [call])

theorem Ended.prepend {α : Type} {p : RetryPolicy} {events : List Event}
    {result : Except Failure α} {calls : List Call} (h : Ended p events result calls)
    {before : List Event} {calls' : List Call} (hspared : Spared p calls') :
    Ended p (before ++ events) result (calls' ++ calls) := by
  cases h with
  | returned spared => exact .returned (hspared.append spared)
  | aborted spared aborts last =>
    rw [← List.append_assoc]
    refine .aborted (hspared.append spared) aborts ?_
    rw [List.getLast?_append, last, Option.some_or]

/-- What ends a part of a dialogue ends what the part belongs to. -/
theorem Ended.of_error {α β : Type} {p : RetryPolicy} {events : List Event} {f : Failure}
    {calls : List Call} (h : Ended p events (.error f : Except Failure α) calls) :
    Ended p events (.error f : Except Failure β) calls := by
  cases h with
  | aborted spared aborts last => exact .aborted spared aborts last

theorem Ended.of_aborts {α : Type} {p : RetryPolicy} {events : List Event} {f : Failure}
    {call : Call} (h : Aborts p call f) (hlast : events.getLast? = some call.ending) :
    Ended p events (.error f : Except Failure α) [call] :=
  @Ended.aborted _ _ _ f [] call .nil h hlast

theorem Ended.cons {α : Type} {p : RetryPolicy} {events : List Event}
    {result : Except Failure α} {calls : List Call} (h : Ended p events result calls) (e : Event) :
    Ended p (e :: events) result calls := by
  cases h with
  | returned spared => exact .returned spared
  | aborted spared aborts last =>
    refine .aborted spared aborts ?_
    rw [List.getLast?_cons, last]
    rfl

theorem Ended.map {α β : Type} {p : RetryPolicy} {events : List Event} {result : Except Failure α}
    {calls : List Call} (h : Ended p events result calls) (g : α → β) :
    Ended p events (result.map g) calls := by
  cases h with
  | returned spared => exact .returned spared
  | aborted spared aborts last => exact .aborted spared aborts last

theorem Ended.spared {α : Type} {p : RetryPolicy} {events : List Event} {a : α}
    {calls : List Call} (h : Ended p events (.ok a) calls) : Spared p calls := by
  cases h with
  | returned spared => exact spared

theorem Ended.error_iff {α : Type} {p : RetryPolicy} {events : List Event}
    {result : Except Failure α} {calls : List Call} (h : Ended p events result calls) :
    (∃ f, result = .error f) ↔ ∃ call ∈ calls, ∃ f, Aborts p call f := by
  cases h with
  | returned spared =>
    constructor
    · rintro ⟨f, hf⟩
      cases hf
    · rintro ⟨call, hcall, f, haborts⟩
      exact absurd haborts (spared call hcall f)
  | @aborted f calls call spared aborts last =>
    exact ⟨fun _ => ⟨call, by simp, f, aborts⟩, fun _ => ⟨f, rfl⟩⟩

theorem Ended.of_mem {α : Type} {p : RetryPolicy} {events : List Event}
    {result : Except Failure α} {calls : List Call} (h : Ended p events result calls) {call : Call}
    (hcall : call ∈ calls) {f : Failure} (haborts : Aborts p call f) :
    result = .error f ∧ calls.getLast? = some call ∧ events.getLast? = some call.ending := by
  cases h with
  | returned spared => exact absurd haborts (spared call hcall f)
  | aborted spared aborts last =>
    rw [List.mem_append, List.mem_singleton] at hcall
    rcases hcall with hcall | rfl
    · exact absurd haborts (spared call hcall f)
    · exact ⟨by rw [aborts.unique haborts], List.getLast?_concat, last⟩

/-! ### The parts of a dialogue -/

/-- A tool that fails in a way that the model is not told of may be mended by another attempt. -/
def Dialogue.Reporting (d : Dialogue ω) : Prop :=
  ∀ call w f, ((d.tools call).run w).result = .error f → isTold f = false → f.isTransient = true

/-- The calls of a part of a dialogue account for its events, and the part ends with them. -/
def Closed {α : Type} (d : Dialogue ω) (o : Outcome ω α) : Prop :=
  ∃ calls, Accounts d o.events calls ∧ Ended d.settings.retry o.events o.result calls

theorem Heard.closed {p : Position} {w : ω} {o : Outcome ω (Text × List ToolCall)}
    (h : Heard d system p w o) (hregular : ∀ e ∈ o.events, e.isRegular = true) : Closed d o := by
  cases h with
  | unanswered asked =>
    obtain ⟨failures, haccounts⟩ := exists_ask_accounts asked
    refine ⟨_, haccounts.cons rfl, ?_⟩
    refine .of_aborts (.of_model (haccounts.kept _ (by simp))) ?_
    rw [List.getLast?_cons, getLast?_ask asked]
    rfl
  | untold asked turn =>
    -- a regular reply makes a turn
    have hmem := List.mem_of_getLast? (getLast?_ask asked)
    obtain ⟨t, rfl, hbyte, -⟩ := Event.isRegular_reply (hregular _ (List.mem_cons_of_mem _ hmem))
    rw [replyTurn_text_iff.2 hbyte] at turn
    cases turn
  | @unread text f w' events asked turn calls =>
    have hmem := List.mem_of_getLast? (getLast?_ask asked)
    have hreply := hregular (.answered (.ok (.str text))) (by simp [hmem])
    obtain ⟨t, ht, -, hnone⟩ := Event.isRegular_reply hreply
    cases ht
    obtain ⟨e, hsome, -⟩ := ToolCall.all_eq_error_iff.1 calls
    rw [hnone] at hsome
    cases hsome
  | read asked turn calls_eq =>
    obtain ⟨failures, haccounts⟩ := exists_ask_accounts asked
    refine ⟨_, (haccounts.cons rfl).append_right rfl, ?_⟩
    exact .returned .of_model_ok

theorem Dispatched.closed (hreporting : d.Reporting) {iteration : { n : Nat // 1 ≤ n }}
    {call : ToolCall} {w : ω} {o : Outcome ω ToolReport} (h : Dispatched d iteration call w o)
    (hregular : ∀ e ∈ o.events, e.isRegular = true) : Closed d o := by
  cases h with
  | returned tried written =>
    obtain ⟨failures, haccounts⟩ := exists_trial_accounts tried
    exact ⟨_, haccounts.cons rfl, .returned .of_tool_ok⟩
  | unwritten tried unwritten =>
    have hmem := List.mem_of_getLast? (getLast?_attempt_trial tried)
    obtain ⟨t, ht⟩ := Event.isRegular_value (hregular _ (List.mem_cons_of_mem _ hmem))
    rw [unwritten] at ht
    cases ht
  | told tried told =>
    obtain ⟨failures, haccounts⟩ := exists_trial_accounts tried
    refine ⟨_, (haccounts.cons rfl).append_right rfl, ?_⟩
    exact .returned (.of_told told)
  | @broken f w' events tried untold =>
    -- only a failure that was tried again to the last gets here
    obtain ⟨failures, haccounts⟩ := exists_trial_accounts tried
    obtain ⟨w, hw⟩ := haccounts.real _ List.mem_cons_self (.error f) (.inr rfl)
    have hf := hreporting call w f hw untold
    refine ⟨_, haccounts.cons rfl, ?_⟩
    refine .of_aborts (.of_tool (haccounts.kept _ (by simp)) hf) ?_
    rw [List.getLast?_cons, getLast?_attempt_trial tried]
    rfl

theorem Worked.closed (hreporting : d.Reporting) {iteration : { n : Nat // 1 ≤ n }}
    {calls : List ToolCall} {w : ω} {o : Outcome ω (List ToolReport)}
    (h : Worked d iteration calls w o) (hregular : ∀ e ∈ o.events, e.isRegular = true) :
    Closed d o := by
  induction h with
  | none => exact ⟨[], .of_nil rfl, .returned .nil⟩
  | broken first =>
    obtain ⟨calls, haccounts, hended⟩ := first.closed hreporting hregular
    exact ⟨calls, haccounts, hended.of_error⟩
  | @reported call rest w w' r events o first others ih =>
    obtain ⟨calls, haccounts, hended⟩ :=
      first.closed hreporting fun e he => hregular e (List.mem_append_left _ he)
    obtain ⟨calls', haccounts', hended'⟩ := ih fun e he => hregular e (List.mem_append_right _ he)
    exact ⟨calls ++ calls', haccounts.append haccounts', (hended'.prepend hended.spared).map _⟩

/-- The calls of a dialogue, from a position on. -/
theorem Course.closed (hreporting : d.Reporting) {left : Nat} {p : Position} {w : ω}
    {o : Outcome ω DialogueResult} (h : Course d system left p w o)
    (hregular : ∀ e ∈ o.events, e.isRegular = true) : Closed d o := by
  induction h with
  | unheard heard =>
    obtain ⟨calls, haccounts, hended⟩ := heard.closed hregular
    exact ⟨calls, haccounts, hended.of_error⟩
  | @concluded left p w w' text pending events heard last =>
    obtain ⟨calls, haccounts, hended⟩ :=
      heard.closed fun e he => hregular e (List.mem_append_left _ he)
    exact ⟨calls, haccounts.append_right (p.dealing?_closing pending), .returned hended.spared⟩
  | @broken left p w w₁ w₂ text pending events₁ events₂ f heard asks worked =>
    obtain ⟨calls, haccounts, hended⟩ :=
      heard.closed fun e he => hregular e (List.mem_append_left _ he)
    obtain ⟨calls', haccounts', hended'⟩ :=
      worked.closed hreporting fun e he => hregular e (by simp [he])
    refine ⟨calls ++ calls', haccounts.append (haccounts'.cons rfl), ?_⟩
    exact (hended'.of_error.cons _).prepend hended.spared
  | @onward left p w w₁ w₂ text pending events₁ events₂ new o heard asks worked rest ih =>
    obtain ⟨calls, haccounts, hended⟩ :=
      heard.closed fun e he => hregular e (List.mem_append_left _ he)
    obtain ⟨calls', haccounts', hended'⟩ :=
      worked.closed hreporting fun e he => hregular e (by simp [he])
    obtain ⟨calls'', haccounts'', hended''⟩ := ih fun e he => hregular e (by simp [he])
    refine ⟨calls ++ (calls' ++ calls''), ?_, ?_⟩
    · exact haccounts.append ((haccounts'.append haccounts'').cons rfl)
    · -- the iteration is spared, so what ends the rest ends the whole
      have hwork : Ended d.settings.retry (events₂ ++ o.events) o.result (calls' ++ calls'') :=
        hended''.prepend hended'.spared
      exact (hwork.cons _).prepend hended.spared

/-! ### Registries -/

theorem Dialogue.reporting_of_registry (service : Service ω) (tools : Registry ω)
    (settings : DialogueSettings) : Reporting ⟨service, tools, settings⟩ := by
  intro call w f hf huntold
  simp only [isTold, Bool.or_eq_false_iff, beq_eq_false_iff_ne] at huntold
  rcases Registry.execute_error_kind hf with hkind | hkind | htransient
  · exact absurd hkind huntold.1
  · exact absurd hkind huntold.2
  · exact htransient

/-- A registered tool itself fails so, on arguments that fit. -/
def FromHandler (tools : Registry ω) (call : ToolCall) (f : Failure) : Prop :=
  ∃ t fields w, tools.find? call.tool = some t ∧
    Registry.arguments t (.obj call.arguments) = .ok fields ∧
    ((t.run fields).run w).result = .error f

theorem Call.fromHandler_of_real {service : Service ω} {tools : Registry ω}
    {settings : DialogueSettings} {call : ToolCall} {tries : Tries ToolValue}
    (h : (Call.tool call tries).Real ⟨service, tools, settings⟩) {f : Failure}
    (hhas : tries.Has (.error f)) (hf : f.isTransient = true) : FromHandler tools call f := by
  obtain ⟨w, hw⟩ := h _ hhas
  have hw : ((tools.execute call.tool (.obj call.arguments)).run w).result = .error f := hw
  obtain ⟨t, fields, hfind, hargs, hrun⟩ := Registry.handler_of_transient hw hf
  exact ⟨t, fields, w, hfind, hargs, hrun⟩

/-- A whole dialogue over a registry, whose replies can be read and whose values can be written.
Its calls account for all that it asks, executes and waits for.  It fails exactly if it is given up
for one of them: the model refuses, or the model or a tool fails in all the attempts.  Then it fails
with the failure of the last attempt, and this attempt is the last that happens at all.  A tool call
is tried again, or given up, only for failures that a registered tool itself failed with. -/
theorem Dialogue.run_aborts (service : Service ω) (tools : Registry ω)
    (settings : DialogueSettings) (system user : Text) (w : ω)
    (hregular : ∀ e ∈ (((⟨service, tools, settings⟩ : Dialogue ω).run system user).run w).events,
      e.isRegular = true) :
    let d : Dialogue ω := ⟨service, tools, settings⟩
    let o := (d.run system user).run w
    ∃ calls, Accounts d o.events calls ∧
      ((∃ f, o.result = .error f) ↔ ∃ call ∈ calls, ∃ f, Aborts settings.retry call f) ∧
      (∀ call ∈ calls, ∀ f, Aborts settings.retry call f →
        o.result = .error f ∧ calls.getLast? = some call ∧
          o.events.getLast? = some call.ending) ∧
      ∀ call tries, .tool call tries ∈ calls → ∀ f, tries.Has (.error f) →
        f.isTransient = true → FromHandler tools call f := by
  intro d o
  have hreporting : d.Reporting := reporting_of_registry service tools settings
  obtain ⟨calls, haccounts, hended⟩ := (d.course_run system user w).closed hreporting hregular
  refine ⟨calls, haccounts, hended.error_iff, ?_, ?_⟩
  · intro call hcall f haborts
    exact hended.of_mem hcall haborts
  · intro call tries hcall f hhas hf
    exact Call.fromHandler_of_real (haccounts.real _ hcall) hhas hf

/-- The kind of the failure that an act comes to, if it comes to one. -/
def Outcome.kind? {α : Type} (o : Outcome ω α) : Option FailureKind :=
  match o.result with
  | .ok _ => none
  | .error f => some f.kind

theorem Outcome.exists_error {α : Type} {o : Outcome ω α} {kind : FailureKind}
    (h : o.kind? = some kind) : ∃ f, o.result = .error f ∧ f.kind = kind := by
  unfold kind? at h
  split at h
  · cases h
  · next f hf => exact ⟨f, hf, by simpa using h⟩

/-- A registry whose only tool is busy for ever. -/
def busyRegistry : Registry Rehearsal :=
  ⟨[⟨"count", "Counts.", none, fun _ => Act.fail (.transient "busy" none)⟩], by simp⟩

/-- A model that asks for a count. -/
def asker : Rehearsal :=
  { replies := [.ok (.str "```json\n\x7b\"tool\": \"count\"\x7d\n```")] }

theorem Dialogue.run_aborts_busy :
    let d : Dialogue Rehearsal := ⟨Rehearsal.service, busyRegistry, .standard⟩
    let o := (d.run "Count." "How many?").run asker
    (∀ e ∈ o.events, e.isRegular = true) ∧
      ∃ f calls call, f.kind = .transient ∧ o.result = .error f ∧ Accounts d o.events calls ∧
        calls.getLast? = some call ∧ Aborts d.settings.retry call f := by
  have hregular : (((⟨Rehearsal.service, busyRegistry, .standard⟩ : Dialogue Rehearsal).run
      "Count." "How many?").run asker).events.all Event.isRegular = true := by decide +kernel
  have hkind : (((⟨Rehearsal.service, busyRegistry, .standard⟩ : Dialogue Rehearsal).run
      "Count." "How many?").run asker).kind? = some .transient := by decide +kernel
  rw [List.all_eq_true] at hregular
  obtain ⟨f, hresult, hf⟩ := Outcome.exists_error hkind
  obtain ⟨calls, haccounts, hiff, hlast, -⟩ :=
    run_aborts Rehearsal.service busyRegistry .standard "Count." "How many?" asker hregular
  obtain ⟨call, hcall, g, haborts⟩ := hiff.1 ⟨f, hresult⟩
  obtain ⟨hg, hcalls, -⟩ := hlast call hcall g haborts
  have hfg : f = g := Except.error.inj (hresult.symm.trans hg)
  subst hfg
  exact ⟨hregular, f, calls, call, hf, hresult, haccounts, hcalls, haborts⟩

end ReleaseNotes
