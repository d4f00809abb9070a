/-
Dialogues that follow scripts.

The model and the tools of such a dialogue come to what their scripts say, attempt by attempt.  A
failure that another attempt mends leaves no trace in the result: without all such failures in the
scripts, the same dialogue needs one attempt for each call and never waits.

Main statements:
* `Scripts`, `Scripts.dialogue` — what is left of the scripts, and a dialogue that follows them;
* `Scripts.calm` — the scripts without the failures that another attempt may mend;
* `Scripts.skipping` — from the calm scripts, a dialogue skips its failures;
* `Dialogue.run_calm` — a whole dialogue.
-/
import Mathlib.Logic.Function.Basic
import ReleaseNotes.Proofs.Dialogue.Reports
import ReleaseNotes.Proofs.Dialogue.Skipping

namespace ReleaseNotes

open Dialogue

/-- The limits of a dialogue, with one attempt for each call. -/
def DialogueSettings.once (s : DialogueSettings) : DialogueSettings :=
  { s with retry := { s.retry with attempts := ⟨1, le_refl 1⟩ } }

/-! ### One script -/

/-- What attempts come to, one after another. -/
abbrev Script (β : Type) := List (Except Failure β)

namespace Script

variable {β : Type}

/-- What the next attempt comes to. -/
def next (script : Script β) : Except Failure β := script.headD (.error .missingItem)

/-- The script without the failures that another attempt may mend. -/
def calm (script : Script β) : Script β := script.filter isFinal

theorem calm_tail_of_failing {script : Script β} (h : isFinal script.next = false) :
    calm script.tail = calm script := by
  cases script with
  | nil => rfl
  | cons result rest =>
    have hresult : isFinal result = false := h
    simp [calm, hresult]

theorem next_calm {script : Script β} (h : isFinal script.next = true) :
    script.calm.next = script.next ∧ script.calm.tail = calm script.tail := by
  cases script with
  | nil => exact ⟨rfl, rfl⟩
  | cons result rest =>
    have hresult : isFinal result = true := h
    simp [calm, hresult, next]

/-- The scripts under all keys after an attempt that follows the one under a key. -/
def advance {κ : Type} [DecidableEq κ] (scripts : κ → Script β) (k : κ) : κ → Script β :=
  Function.update scripts k (scripts k).tail

variable {κ : Type} [DecidableEq κ] {scripts : κ → Script β} {k : κ}

theorem calm_advance_of_failing (h : isFinal (scripts k).next = false) :
    (fun j => (advance scripts k j).calm) = fun j => (scripts j).calm := by
  -- the item that is taken was not in the calm script, and the other scripts stay
  funext j
  by_cases hj : j = k
  · subst hj
    rw [advance, Function.update_self, calm_tail_of_failing h]
  · rw [advance, Function.update_of_ne hj]

theorem calm_advance (h : isFinal (scripts k).next = true) :
    (fun j => (advance scripts k j).calm) = advance (fun j => (scripts j).calm) k := by
  funext j
  by_cases hj : j = k
  · subst hj
    rw [advance, advance, Function.update_self, Function.update_self, (next_calm h).2]
  · rw [advance, advance, Function.update_of_ne hj, Function.update_of_ne hj]

end Script

/-! ### The scripts of a dialogue -/

/-- What is left of the scripts of a model, one for each kind of question, and of its tools, one for
each kind of use. -/
structure Scripts (κ τ : Type) where
  replies : κ → Script Json
  results : τ → Script ToolValue

namespace Scripts

variable {κ τ ω : Type}

/-- The scripts without the failures that another attempt may mend. -/
def calm (s : Scripts κ τ) : Scripts κ τ :=
  ⟨fun k => (s.replies k).calm, fun k => (s.results k).calm⟩

/-- A model that follows its scripts. -/
def service [DecidableEq κ] (kind : Text → List Turn → κ) : Service (Scripts κ τ) :=
  fun system turns s =>
    ⟨(s.replies (kind system turns)).next,
      { s with replies := Script.advance s.replies (kind system turns) }, []⟩

/-- A tool that follows the script for its use. -/
def use [DecidableEq τ] (k : τ) : Act (Scripts κ τ) ToolValue := fun s =>
  ⟨(s.results k).next, { s with results := Script.advance s.results k }, []⟩

/-- The tools of a registry, each under its name and with its signature, but with scripts to
follow. -/
def tools [DecidableEq τ] (registry : Registry ω) (kind : Text → Json.Fields → τ) :
    Registry (Scripts κ τ) where
  tools := registry.tools.map fun t =>
    ⟨t.name, t.description, t.signature, fun fields => use (kind t.name fields)⟩
  distinct := by
    rw [List.map_map]
    exact registry.distinct

/-- A dialogue that follows scripts. -/
def dialogue [DecidableEq κ] [DecidableEq τ] (question : Text → List Turn → κ)
    (registry : Registry ω) (kind : Text → Json.Fields → τ) (settings : DialogueSettings) :
    Dialogue (Scripts κ τ) :=
  ⟨service question, (tools registry kind : Registry (Scripts κ τ)), settings⟩

theorem skips_service [DecidableEq κ] (kind : Text → List Turn → κ) (system : Text)
    (turns : List Turn) : Skips (fun s s' : Scripts κ τ => s' = s.calm) (service kind system turns)
      (service kind system turns) := by
  constructor
  · rintro s _ rfl hfailing
    have hscripts := Script.calm_advance_of_failing (k := kind system turns) hfailing
    exact congrArg (Scripts.mk · s.calm.results) hscripts.symm
  · rintro s _ rfl hfinal
    have hscripts := Script.calm_advance (k := kind system turns) hfinal
    exact ⟨(Script.next_calm hfinal).1, congrArg (Scripts.mk · s.calm.results) hscripts.symm⟩

theorem skips_use [DecidableEq τ] (k : τ) :
    Skips (fun s s' : Scripts κ τ => s' = s.calm) (use k) (use k) := by
  constructor
  · rintro s _ rfl hfailing
    have hscripts := Script.calm_advance_of_failing (k := k) hfailing
    exact congrArg (Scripts.mk s.calm.replies) hscripts.symm
  · rintro s _ rfl hfinal
    have hscripts := Script.calm_advance (k := k) hfinal
    exact ⟨(Script.next_calm hfinal).1, congrArg (Scripts.mk s.calm.replies) hscripts.symm⟩

/-- From the calm scripts, a dialogue with one attempt for each call skips its failures. -/
theorem skipping [DecidableEq κ] [DecidableEq τ] (question : Text → List Turn → κ)
    (registry : Registry ω) (kind : Text → Json.Fields → τ) (settings : DialogueSettings) :
    Skipping (fun s s' : Scripts κ τ => s' = s.calm) (dialogue question registry kind settings)
      (dialogue question registry kind settings.once) := by
  refine ⟨skips_service question, fun call => ?_, rfl⟩
  refine Registry.skips_execute ?_ call.tool (.obj call.arguments)
  intro t ht fields
  obtain ⟨t, -, rfl⟩ := List.mem_map.1 ht
  exact skips_use (kind t.name fields)

end Scripts

/-- A whole dialogue that follows scripts and comes to a result.  Without the failures that another
attempt may mend, and with one attempt for each call, the dialogue comes to the same result without
any wait, by the same calls.  It leaves of the scripts what is calm of what the other one leaves,
and the other one waits after each failure of a call, beginning anew with each call. -/
theorem Dialogue.run_calm {κ τ ω : Type} [DecidableEq κ] [DecidableEq τ]
    (question : Text → List Turn → κ) (registry : Registry ω) (kind : Text → Json.Fields → τ)
    (settings : DialogueSettings) (system user : Text) (s : Scripts κ τ) {r : DialogueResult}
    (hr : (((Scripts.dialogue question registry kind settings).run system user).run s).result =
      .ok r) :
    let d := Scripts.dialogue question registry kind settings
    let d' := Scripts.dialogue question registry kind settings.once
    let o := (d.run system user).run s
    let o' := (d'.run system user).run s.calm
    o'.result = .ok r ∧ o'.world = o.world.calm ∧ o'.sleeps = [] ∧
      ∃ calls, Accounts d o.events calls ∧ (∀ c ∈ calls, c.isSettled = true) ∧
        Accounts d' o'.events (calls.map Call.calm) ∧
        o.sleeps = calls.flatMap fun c => settings.retry.waits c.failures.length := by
  intro d d' o o'
  have hcourse := d.course_run system user s
  have hskips := Scripts.skipping question registry kind settings
  obtain ⟨s', events', hcourse', hworld, calls, haccounts, hsettled, hcalm⟩ :=
    hcourse.resumed hskips rfl hr
  have hrun : o' = ⟨.ok r, s', events'⟩ := by
    rw [hr] at hcourse'
    exact hcourse'.converse_run
  rw [hrun]
  -- the calls of the second dialogue have no failures to wait for
  refine ⟨rfl, hworld, ?_, calls, haccounts, hsettled, hcalm, haccounts.sleeps⟩
  rw [Outcome.sleeps, hcalm.sleeps, List.flatMap_map, List.flatMap_eq_nil_iff]
  intro c _
  cases c <;> rfl

/-- A registry with one tool. -/
def counts : Registry Unit := ⟨[⟨"count", "Counts.", none, fun _ => pure (.data .null)⟩], by simp⟩

/-- The scripts of a model and of a tool that are both busy at first. -/
def busyAtFirst : Scripts Unit Text :=
  ⟨fun _ => [.error (.transient "busy" none),
      .ok (.str "```json\n\x7b\"tool\": \"count\"\x7d\n```"), .ok (.str "Seven.")],
    fun _ => [.error (.transient "busy" none), .ok (.data (.str "7"))]⟩

/-- The two dialogues that follow these scripts, the second without the failures. -/
theorem Dialogue.run_calm_busyAtFirst :
    let d := Scripts.dialogue (fun _ _ => ()) counts (fun tool _ => tool) .standard
    let d' := Scripts.dialogue (fun _ _ => ()) counts (fun tool _ => tool)
      DialogueSettings.standard.once
    ∃ r, ((d.run "Count." "How many?").run busyAtFirst).result = .ok r ∧
      r.text = Text.ofString "Seven." ∧
      ((d'.run "Count." "How many?").run busyAtFirst.calm).result = .ok r := by
  intro d d'
  have hshown : ((d.run "Count." "How many?").run busyAtFirst).result.toOption.map
      DialogueResult.text = some (Text.ofString "Seven.") := by decide +kernel
  obtain ⟨r, hr, htext⟩ := Outcome.exists_of_map hshown
  exact ⟨r, hr, htext, (run_calm _ counts _ .standard "Count." "How many?" busyAtFirst hr).1⟩

end ReleaseNotes
