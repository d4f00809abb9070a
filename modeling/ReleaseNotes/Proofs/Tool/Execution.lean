/-
The execution of a tool.

How a call of a registered tool goes, from a world to an outcome, with one constructor for each way
in which it can end.  Only the tool itself can fail in a way that another attempt may mend; whatever
else goes wrong is reported as a failure that the model is told of.

Main statements:
* `Executed` — how an execution goes;
* `Registry.executed_execute` — an execution goes that way;
* `Registry.execute_eq`, `Registry.runTool_result` — it fails at once, or tells what a tool comes to;
* `Registry.of_execute_error`, `Registry.execute_error_kind` — its failures and their kinds;
* `Registry.handler_of_transient` — a transient failure is the tool's own.
-/
import ReleaseNotes.Tool.Registry

namespace ReleaseNotes

variable {ω : Type}

/-- What a registry itself fails with is not mended by another attempt. -/
theorem Failure.isTransient_eq_false {f : Failure}
    (h : f.kind = .unknownTool ∨ f.kind = .toolExecution) : f.isTransient = false := by
  unfold isTransient
  rcases h with h | h <;> rw [h] <;> decide

/-- A failure that is no bad input and that another attempt does not mend. -/
structure Failure.IsOrdinary (f : Failure) : Prop where
  isTransient : f.isTransient = false
  isInput : f.isInput = false

theorem Failure.isOrdinary_misuse (problem : Misuse) : (misuse problem).IsOrdinary := by
  have hkind : problem.kind = .member ∨ problem.kind = .type := by
    cases problem <;> first | exact .inl rfl | exact .inr rfl
  have h : (misuse problem).kind = problem.kind := rfl
  refine ⟨?_, ?_⟩
  · unfold isTransient
    rcases hkind with hkind | hkind <;> rw [h, hkind] <;> decide
  · unfold isInput
    rcases hkind with hkind | hkind <;> rw [h, hkind] <;> decide

theorem Failure.isOrdinary_json (e : Json.DecodeError) : (json e).IsOrdinary := by
  cases e <;> exact ⟨rfl, rfl⟩

/-- How an execution goes. -/
inductive Executed (r : Registry ω) (name : Text) (given : Json) (w : ω) :
    Outcome ω ToolValue → Prop
  /-- No tool has the name. -/
  | unknown (missing : r.find? name = none) :
      Executed r name given w ⟨.error (.unknownTool name), w, []⟩
  /-- The arguments do not fit. -/
  | unfit {t : Tool ω} {f : Failure} (found : r.find? name = some t)
      (rejected : Registry.arguments t given = .error f) :
      Executed r name given w ⟨.error f, w, []⟩
  /-- The tool returns a value. -/
  | returned {t : Tool ω} {fields : Json.Fields} {v : ToolValue} {w' : ω} {events : List Event}
      (found : r.find? name = some t) (accepted : Registry.arguments t given = .ok fields)
      (ran : (t.run fields).run w = ⟨.ok v, w', events⟩) :
      Executed r name given w ⟨.ok v, w', .ran t.name (.obj fields) :: events⟩
  /-- The tool fails, and its failure is passed on. -/
  | passed {t : Tool ω} {fields : Json.Fields} {f : Failure} {w' : ω} {events : List Event}
      (found : r.find? name = some t) (accepted : Registry.arguments t given = .ok fields)
      (ran : (t.run fields).run w = ⟨.error f, w', events⟩)
      (passes : Registry.passesOn f = true) :
      Executed r name given w ⟨.error f, w', .ran t.name (.obj fields) :: events⟩
  /-- The tool fails, and its failure is reported as one of the tool. -/
  | broke {t : Tool ω} {fields : Json.Fields} {f : Failure} {w' : ω} {events : List Event}
      (found : r.find? name = some t) (accepted : Registry.arguments t given = .ok fields)
      (ran : (t.run fields).run w = ⟨.error f, w', events⟩)
      (stops : Registry.passesOn f = false) :
      Executed r name given w ⟨.error (Registry.wrapped t.name f), w',
        .ran t.name (.obj fields) :: events ++ [.noticed (.toolBroke t.name f)]⟩

namespace Registry

theorem runTool_run (t : Tool ω) (fields : Json.Fields) (w : ω) :
    (runTool t fields).run w =
      match (t.run fields).run w with
      | ⟨.ok v, w', events⟩ => ⟨.ok v, w', .ran t.name (.obj fields) :: events⟩
      | ⟨.error f, w', events⟩ =>
        if passesOn f = true then ⟨.error f, w', .ran t.name (.obj fields) :: events⟩
        else ⟨.error (wrapped t.name f), w',
          .ran t.name (.obj fields) :: events ++ [.noticed (.toolBroke t.name f)]⟩ := by
  rw [runTool, Act.bind_run_ok (Act.leave_run _ w), Act.rescue_run]
  rcases (t.run fields).run w with ⟨result, w', events⟩
  cases result with
  | ok v => rfl
  | error f =>
    by_cases hf : passesOn f = true
    · simp [hf]
    · simp [hf, Act.bind_run]

/-- What the registry makes of what a tool comes to. -/
def reported (tool : Text) : Except Failure ToolValue → Except Failure ToolValue
  | .ok v => .ok v
  | .error f => .error (if passesOn f then f else wrapped tool f)

theorem runTool_result (t : Tool ω) (fields : Json.Fields) (w : ω) :
    ((runTool t fields).run w).result = reported t.name ((t.run fields).run w).result ∧
      ((runTool t fields).run w).world = ((t.run fields).run w).world := by
  rw [runTool_run]
  rcases (t.run fields).run w with ⟨result, w', events⟩
  cases result with
  | ok v => exact ⟨rfl, rfl⟩
  | error f =>
    by_cases hf : passesOn f = true
    · simp [hf, reported]
    · simp [hf, reported]

/-- Arguments that do not fit are a failure of the tool. -/
theorem kind_of_arguments {t : Tool ω} {given : Json} {f : Failure}
    (h : arguments t given = .error f) : f.kind = .toolExecution := by
  unfold arguments at h
  split at h
  · split at h
    · cases h
    · cases h
      rfl
  · split at h <;> cases h

/-- An execution either fails at once, or runs a tool of the registry. -/
theorem execute_eq (r : Registry ω) (name : Text) (given : Json) :
    (∃ f, f.isTransient = false ∧ r.execute name given = Act.fail f) ∨
      ∃ t ∈ r.tools, ∃ fields, r.execute name given = runTool t fields := by
  unfold execute
  cases hfind : r.find? name with
  | none => exact .inl ⟨_, Failure.isTransient_eq_false (.inl rfl), rfl⟩
  | some t =>
    cases hargs : arguments t given with
    | error f =>
      have hf := Failure.isTransient_eq_false (.inr (kind_of_arguments hargs))
      exact .inl ⟨f, hf, by simp only [hargs]; rfl⟩
    | ok fields =>
      exact .inr ⟨t, List.mem_of_find?_eq_some hfind, fields, by simp only [hargs]; rfl⟩

/-- A registry comes to the same in all worlds, if its tools do. -/
theorem execute_result_eq {r : Registry ω}
    (h : ∀ t ∈ r.tools, ∀ fields w w',
      ((t.run fields).run w).result = ((t.run fields).run w').result)
    (name : Text) (given : Json) (w w' : ω) :
    ((r.execute name given).run w).result = ((r.execute name given).run w').result := by
  rcases r.execute_eq name given with ⟨f, -, heq⟩ | ⟨t, ht, fields, heq⟩
  · rw [heq]
    rfl
  · rw [heq, (runTool_result t fields w).1, (runTool_result t fields w').1, h t ht fields w w']

/-- An execution goes as the relation says. -/
theorem executed_execute (r : Registry ω) (name : Text) (given : Json) (w : ω) :
    Executed r name given w ((r.execute name given).run w) := by
  unfold execute
  cases hfind : r.find? name with
  | none => exact .unknown hfind
  | some t =>
    show Executed r name given w ((Act.of (arguments t given) >>= runTool t).run w)
    cases hargs : arguments t given with
    | error f =>
      rw [Act.bind_run_error (Act.of_run _ w)]
      exact .unfit hfind hargs
    | ok fields =>
      have hrun := runTool_run t fields w
      rw [Act.bind_run_ok (Act.of_run _ w)]
      simp only [List.nil_append]
      rcases htool : (t.run fields).run w with ⟨result, w', events⟩
      rw [htool] at hrun
      cases result with
      | ok v =>
        rw [hrun]
        exact .returned hfind hargs htool
      | error f =>
        dsimp only at hrun
        by_cases hf : passesOn f = true
        · rw [hrun, if_pos hf]
          exact .passed hfind hargs htool hf
        · rw [hrun, if_neg hf]
          exact .broke hfind hargs htool (by simpa using hf)

theorem passesOn_iff {f : Failure} :
    passesOn f = true ↔ f.isTransient = true ∨ f.kind = .toolExecution := by
  simp [passesOn]

/-- A failure that comes out of an execution tells that no tool has the name, or that the tool is at
fault, or another attempt may mend it. -/
theorem of_execute_error {r : Registry ω} {name : Text} {given : Json} {w : ω} {f : Failure}
    (h : ((r.execute name given).run w).result = .error f) :
    (r.find? name = none ∧ f = .unknownTool name) ∨ f.kind = .toolExecution ∨
      f.isTransient = true := by
  have hexecuted := r.executed_execute name given w
  generalize (r.execute name given).run w = o at h hexecuted
  cases hexecuted with
  | unknown missing =>
    cases h
    exact .inl ⟨missing, rfl⟩
  | unfit _ rejected =>
    cases h
    exact .inr (.inl (kind_of_arguments rejected))
  | returned _ _ _ => cases h
  | passed _ _ _ passes =>
    cases h
    exact .inr (passesOn_iff.1 passes).symm
  | broke _ _ _ _ =>
    cases h
    exact .inr (.inl rfl)

/-- The kinds of failure of an execution. -/
theorem execute_error_kind {r : Registry ω} {name : Text} {given : Json} {w : ω} {f : Failure}
    (h : ((r.execute name given).run w).result = .error f) :
    f.kind = .unknownTool ∨ f.kind = .toolExecution ∨ f.isTransient = true := by
  rcases of_execute_error h with ⟨-, rfl⟩ | hrest
  · exact .inl rfl
  · exact .inr hrest

/-- A failure that another attempt may mend is one that a registered tool itself failed with, on
arguments that fit. -/
theorem handler_of_transient {r : Registry ω} {name : Text} {given : Json} {w : ω} {f : Failure}
    (h : ((r.execute name given).run w).result = .error f) (htransient : f.isTransient = true) :
    ∃ t fields, r.find? name = some t ∧ arguments t given = .ok fields ∧
      ((t.run fields).run w).result = .error f := by
  have hexecuted := r.executed_execute name given w
  generalize (r.execute name given).run w = o at h hexecuted
  cases hexecuted with
  | unknown _ =>
    cases h
    rw [Failure.isTransient_eq_false (.inl rfl)] at htransient
    cases htransient
  | unfit _ rejected =>
    cases h
    rw [Failure.isTransient_eq_false (.inr (kind_of_arguments rejected))] at htransient
    cases htransient
  | returned _ _ _ => cases h
  | passed found accepted ran _ =>
    cases h
    exact ⟨_, _, found, accepted, by rw [ran]⟩
  | broke _ _ _ _ =>
    cases h
    rw [Failure.isTransient_eq_false (.inr rfl)] at htransient
    cases htransient

end Registry
end ReleaseNotes
