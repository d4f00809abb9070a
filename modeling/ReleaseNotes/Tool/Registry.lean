/-
The registry of tools.

Tools by their names.  No name is registered twice, and the tools keep the order in which they were
registered.  A call is checked against the tool's signature before the tool runs, and a failure of
the tool is reported as one.

Main statements:
* `Registry` — the tools, with the proof that their names are distinct;
* `Registry.register` — one more tool, unless its name is taken;
* `Registry.describe` — the list of tools that the model is given;
* `Registry.execute` — a call of a tool.
-/
import ReleaseNotes.Act.Basic
import ReleaseNotes.Text.Blank
import ReleaseNotes.Tool.Signature
import ReleaseNotes.Tool.Value

namespace ReleaseNotes

/-- A tool. -/
structure Tool (ω : Type) where
  name : Text
  description : Text
  signature : Option Signature
  run : Json.Fields → Act ω ToolValue

/-- Tools with distinct names. -/
structure Registry (ω : Type) where
  tools : List (Tool ω)
  distinct : (tools.map Tool.name).Nodup

namespace Registry

variable {ω : Type}

/-- No tools. -/
def empty : Registry ω := ⟨[], by simp⟩

/-- The names of the tools, in the order of registration. -/
def names (r : Registry ω) : List Text := r.tools.map Tool.name

/-- The tool of a name. -/
def find? (r : Registry ω) (name : Text) : Option (Tool ω) :=
  r.tools.find? fun t => t.name == name

/-- One more tool, unless its name is taken. -/
def register (r : Registry ω) (t : Tool ω) : Except Failure (Registry ω) :=
  if h : t.name ∈ r.names then .error (.duplicateTool t.name)
  else .ok ⟨r.tools ++ [t], by
    have := r.distinct
    simp only [List.map_append, List.map_cons, List.map_nil]
    rw [List.nodup_append]
    refine ⟨this, by simp, ?_⟩
    intro a ha b hb
    simp only [List.mem_singleton] at hb
    subst hb
    rintro rfl
    exact h ha⟩

/-- Several more tools, one after another. -/
def registerAll (r : Registry ω) : List (Tool ω) → Except Failure (Registry ω)
  | [] => .ok r
  | t :: rest => do (← r.register t).registerAll rest

/-- The lines on one tool. -/
def toolLines (t : Tool ω) : List Text :=
  let heading : Text := "### " ++ t.name ++ "\n" ++ t.description
  let arguments := t.signature.elim [] fun s => ["Arguments schema: " ++ s.schema.compact .result]
  heading :: arguments ++ [[]]

/-- A text without the blanks at its front. -/
def afterBlanks (t : Text) : Text := t.dropWhile fun u => u.passes isBlank

/-- A text without the blanks at both ends. -/
def stripped (t : Text) : Text := (afterBlanks (afterBlanks t).reverse).reverse

/-- The list of tools that the model is given. -/
def describe (r : Registry ω) : Text :=
  stripped (Text.joinWith "\n" (r.tools.flatMap toolLines))

/-- The report on arguments that do not fit. -/
def argumentReport (problems : List Problem) : String :=
  "invalid arguments (" ++
    String.intercalate "; " (problems.map fun p => p.shownPlace ++ ": " ++ p.cause.message) ++ ")"

/-- The arguments that a tool is run with. -/
def arguments (t : Tool ω) (given : Json) : Except Failure Json.Fields :=
  match t.signature with
  | some s => match s.check given with
    | .ok fields => .ok fields
    | .bad problems => .error (.toolFailed t.name (argumentReport problems) (some .validation))
  | none => match given with
    | .obj fields => .ok fields
    | _ => .ok []

/-- Whether a failure of a tool is passed on as it is. -/
def passesOn (f : Failure) : Bool := f.isTransient || f.kind == .toolExecution

/-- What a failure of a tool is reported as. -/
def wrapped (tool : Text) (f : Failure) : Failure :=
  .toolFailed tool (f.kind.name ++ ": " ++ f.message) (some f.kind)

/-- A tool run with arguments that fit. -/
def runTool (t : Tool ω) (fields : Json.Fields) : Act ω ToolValue := do
  Act.leave (.ran t.name (.obj fields))
  (t.run fields).rescue fun f =>
    if passesOn f then Act.fail f
    else do
      Act.notice (.toolBroke t.name f)
      Act.fail (wrapped t.name f)

/-- A call of a tool. -/
def execute (r : Registry ω) (name : Text) (given : Json) : Act ω ToolValue :=
  match r.find? name with
  | none => Act.fail (.unknownTool name)
  | some t => do
    let fields ← Act.of (arguments t given)
    runTool t fields

end Registry
end ReleaseNotes
