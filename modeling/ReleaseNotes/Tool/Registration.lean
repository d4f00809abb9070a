/-
Calls that register tools.

A tool is registered directly, or by decorating the function that runs it.  A decorator registers
its tool whenever it is applied, and hands the function back.  A call that fails leaves the registry
as it is, so that calls can go on after it.

Main statements:
* `Registry.decorate` — a function registered as a tool, and handed back;
* `Registration` — a call that registers a tool;
* `Registry.enter`, `Registry.session` — what calls come to, and the registry afterwards.
-/
import ReleaseNotes.Tool.Registry

namespace ReleaseNotes

/-- What runs a tool. -/
abbrev Tool.Work (ω : Type) : Type := Json.Fields → Act ω ToolValue

/-- A call that registers a tool. -/
inductive Registration (ω : Type) where
  /-- The tool is registered directly. -/
  | direct (t : Tool ω)
  /-- A decorator that knows all else of the tool is applied to the function that runs it. -/
  | decorating (name description : Text) (signature : Option Signature) (work : Tool.Work ω)

namespace Registration

variable {ω : Type}

/-- The tool of a call. -/
def tool : Registration ω → Tool ω
  | direct t => t
  | decorating name description signature work => ⟨name, description, signature, work⟩

/-- The name of a call's tool. -/
def name (c : Registration ω) : Text := c.tool.name

/-- What a call comes to: a failure, or the function that it hands back, if any. -/
abbrev Answer (ω : Type) : Type := Except Failure (Option (Tool.Work ω))

end Registration

namespace Registry

variable {ω : Type}

/-- A function registered as a tool by its decorator, and handed back. -/
def decorate (r : Registry ω) (name description : Text) (signature : Option Signature)
    (work : Tool.Work ω) : Except Failure (Tool.Work ω × Registry ω) := do
  let r' ← r.register ⟨name, description, signature, work⟩
  return (work, r')

/-- What a call comes to, and the registry afterwards. -/
def enter (r : Registry ω) : Registration ω → Registration.Answer ω × Registry ω
  | .direct t => match r.register t with
    | .ok r' => (.ok none, r')
    | .error f => (.error f, r)
  | .decorating name description signature work =>
    match r.decorate name description signature work with
    | .ok (handed, r') => (.ok (some handed), r')
    | .error f => (.error f, r)

/-- What calls come to, one after another, and the registry afterwards. -/
def session (r : Registry ω) : List (Registration ω) →
    List (Registration ω × Registration.Answer ω) × Registry ω
  | [] => ([], r)
  | c :: rest =>
    let (answer, r') := r.enter c
    let (log, last) := r'.session rest
    ((c, answer) :: log, last)

end Registry
end ReleaseNotes
