/-
The outcomes of a call.

What a call of a registry comes to, for every name, all arguments and whatever its tool does: the
call fails before the tool is run if the name is not registered or the arguments are rejected, and
else the tool is run once, and what it comes to is passed on or reported.  The cases exclude each
other and leave no other one, so they say exactly what a call comes to.

Main statements:
* `Registry.find?_eq_some_iff`, `Registry.find?_eq_none_iff` — the tool of a name;
* `Tool.Accepts`, `Tool.Rejects` — how a tool takes the arguments of a call;
* `Registry.arguments_of_accepts`, `Registry.arguments_of_rejects` — the arguments it is run with;
* `Registry.Settles` — what a call comes to;
* `Registry.Settles.unique`, `Registry.settles_execute` — only one outcome settles a call, and the
  execution of the call has it;
* `Registry.settles_iff` — the two put together.
-/
import Mathlib.Data.List.Nodup
import ReleaseNotes.Proofs.Tool.Arguments
import ReleaseNotes.Proofs.Tool.Execution
import ReleaseNotes.Rehearsal.Tools

namespace ReleaseNotes

variable {ω : Type}

/-! ### The tool of a name -/

namespace Registry

theorem find?_eq_none_iff {r : Registry ω} {name : Text} : r.find? name = none ↔ name ∉ r.names := by
  rw [find?, List.find?_eq_none, names, List.mem_map]
  simp

/-- The tool of a name is the only one that has it. -/
theorem find?_eq_some_iff {r : Registry ω} {name : Text} {t : Tool ω} :
    r.find? name = some t ↔ t ∈ r.tools ∧ t.name = name := by
  have hfound : ∀ {t'}, r.find? name = some t' → t' ∈ r.tools ∧ t'.name = name := by
    intro t' h
    rw [find?] at h
    have hname := List.find?_some h
    exact ⟨List.mem_of_find?_eq_some h, eq_of_beq hname⟩
  refine ⟨hfound, fun ⟨ht, hname⟩ => ?_⟩
  cases hfind : r.find? name with
  | none => exact absurd (hname ▸ List.mem_map_of_mem ht) (find?_eq_none_iff.1 hfind)
  | some t' =>
    obtain ⟨ht', hname'⟩ := hfound hfind
    rw [List.inj_on_of_nodup_map r.distinct ht' ht (hname'.trans hname.symm)]

end Registry

/-! ### The arguments of a tool -/

namespace Tool

/-- A tool is run with these arguments: with the ones that its signature accepts, or with the very
arguments of the call if it has no signature. -/
def Accepts (t : Tool ω) (given fields : Json.Fields) : Prop :=
  match t.signature with
  | some s => s.Accepts given fields
  | none => fields = given

/-- A tool has a signature that rejects the arguments of a call. -/
def Rejects (t : Tool ω) (given : Json.Fields) : Prop :=
  ∃ s, t.signature = some s ∧ s.Rejects given

variable {t : Tool ω} {given fields : Json.Fields}

theorem Accepts.unique {others : Json.Fields} (h : t.Accepts given fields)
    (hothers : t.Accepts given others) : others = fields := by
  unfold Accepts at h hothers
  cases hsignature : t.signature with
  | some s =>
    rw [hsignature] at h hothers
    exact Signature.Accepts.unique h hothers
  | none =>
    rw [hsignature] at h hothers
    exact hothers.trans h.symm

theorem Accepts.not_rejects (h : t.Accepts given fields) : ¬ t.Rejects given := by
  rintro ⟨s, hsignature, hrejects⟩
  unfold Accepts at h
  rw [hsignature] at h
  exact Signature.Accepts.not_rejects h hrejects

theorem accepts_or_rejects (t : Tool ω) (given : Json.Fields) :
    (∃ fields, t.Accepts given fields) ∨ t.Rejects given := by
  unfold Accepts
  cases hsignature : t.signature with
  | some s =>
    rcases s.check_cases given with ⟨fields, haccepts, -⟩ | ⟨hrejects, -⟩
    · exact .inl ⟨fields, haccepts⟩
    · exact .inr ⟨s, hsignature, hrejects⟩
  | none => exact .inl ⟨given, rfl⟩

end Tool

namespace Registry

variable {t : Tool ω} {given fields : Json.Fields}

theorem arguments_of_accepts (h : t.Accepts given fields) : arguments t (.obj given) = .ok fields := by
  unfold Tool.Accepts at h
  unfold arguments
  cases hsignature : t.signature with
  | some s =>
    rw [hsignature] at h
    simp only [(Signature.check_eq_ok_iff s).2 h]
  | none =>
    rw [hsignature] at h
    rw [h]

theorem arguments_of_rejects {s : Signature} (hsignature : t.signature = some s)
    (h : s.Rejects given) : arguments t (.obj given) =
      .error (.toolFailed t.name (argumentReport (s.problems given)) (some .validation)) := by
  unfold arguments
  simp only [hsignature, (Signature.check_eq_bad_iff s).2 ⟨h, rfl⟩]

/-! ### What a call comes to -/

/-- What a call of a name comes to, with these arguments and in this world.  A tool is run in the
world of the call, and where it is run, its own events follow the one that tells so; what it leaves
the world in is what the call leaves it in. -/
structure Settles (r : Registry ω) (name : Text) (given : Json.Fields) (w : ω)
    (o : Outcome ω ToolValue) : Prop where
  /-- No tool is run for a name that is not registered. -/
  unknown : name ∉ r.names → o = ⟨.error (.unknownTool name), w, []⟩
  /-- Only such a name is told to be unknown. -/
  known : ∀ f, o.result = .error f → f.kind = .unknownTool → name ∉ r.names
  /-- No tool is run with arguments that its signature rejects; all that is wrong is told. -/
  rejected : ∀ t ∈ r.tools, t.name = name → ∀ s, t.signature = some s → s.Rejects given →
    o = ⟨.error (.toolFailed name (argumentReport (s.problems given)) (some .validation)), w, []⟩
  /-- The value of a tool is passed on. -/
  returned : ∀ t ∈ r.tools, t.name = name → ∀ fields, t.Accepts given fields → ∀ v w' events,
    (t.run fields).run w = ⟨.ok v, w', events⟩ →
      o = ⟨.ok v, w', .ran name (.obj fields) :: events⟩
  /-- A failure that may be mended, or that is one of a tool already, is passed on. -/
  passed : ∀ t ∈ r.tools, t.name = name → ∀ fields, t.Accepts given fields → ∀ f w' events,
    (t.run fields).run w = ⟨.error f, w', events⟩ → f.isTransient = true ∨ f.kind = .toolExecution →
      o = ⟨.error f, w', .ran name (.obj fields) :: events⟩
  /-- Any other failure is reported as one of the tool, by its kind and its message. -/
  broke : ∀ t ∈ r.tools, t.name = name → ∀ fields, t.Accepts given fields → ∀ f w' events,
    (t.run fields).run w = ⟨.error f, w', events⟩ →
      ¬ (f.isTransient = true ∨ f.kind = .toolExecution) →
      o = ⟨.error (.toolFailed name (f.kind.name ++ ": " ++ f.message) (some f.kind)), w',
        .ran name (.obj fields) :: events ++ [.noticed (.toolBroke name f)]⟩
  /-- A name that is registered is that of one tool, which takes the arguments in one way or rejects
  them. -/
  decided : name ∈ r.names → ∃ t ∈ r.tools, t.name = name ∧
    (∀ other ∈ r.tools, other.name = name → other = t) ∧
    ((∃ fields, t.Accepts given fields ∧ ∀ others, t.Accepts given others → others = fields) ∧
        ¬ t.Rejects given ∨
      t.Rejects given ∧ ∀ fields, ¬ t.Accepts given fields)
  /-- No other failure comes out of a call. -/
  contained : ∀ f, o.result = .error f →
    f = .unknownTool name ∨ f.kind = .toolExecution ∨ f.isTransient = true

variable {r : Registry ω} {name : Text} {w : ω}

/-- A registered name is decided on. -/
theorem exists_decided (given : Json.Fields) (h : name ∈ r.names) : ∃ t ∈ r.tools, t.name = name ∧
    (∀ other ∈ r.tools, other.name = name → other = t) ∧
    ((∃ fields, t.Accepts given fields ∧ ∀ others, t.Accepts given others → others = fields) ∧
        ¬ t.Rejects given ∨
      t.Rejects given ∧ ∀ fields, ¬ t.Accepts given fields) := by
  obtain ⟨t, ht, hname⟩ := List.mem_map.1 h
  refine ⟨t, ht, hname, fun other hother hsame => ?_, ?_⟩
  · have hfind : r.find? name = some t := find?_eq_some_iff.2 ⟨ht, hname⟩
    rw [find?_eq_some_iff.2 ⟨hother, hsame⟩] at hfind
    exact Option.some.inj hfind
  · rcases t.accepts_or_rejects given with ⟨fields, haccepts⟩ | hrejects
    · exact .inl ⟨⟨fields, haccepts, fun _ => haccepts.unique⟩, haccepts.not_rejects⟩
    · exact .inr ⟨hrejects, fun _ haccepts => haccepts.not_rejects hrejects⟩

/-- Only one outcome settles a call. -/
theorem Settles.unique {o o' : Outcome ω ToolValue} (h : r.Settles name given w o)
    (h' : r.Settles name given w o') : o = o' := by
  by_cases hname : name ∈ r.names
  · obtain ⟨t, ht, htool, -, ⟨⟨fields, haccepts, -⟩, -⟩ | ⟨⟨s, hsignature, hrejects⟩, -⟩⟩ :=
      h.decided hname
    · rcases hrun : (t.run fields).run w with ⟨result, w', events⟩
      cases result with
      | error f =>
        by_cases hpasses : f.isTransient = true ∨ f.kind = .toolExecution
        · rw [h.passed t ht htool fields haccepts f w' events hrun hpasses,
            h'.passed t ht htool fields haccepts f w' events hrun hpasses]
        · rw [h.broke t ht htool fields haccepts f w' events hrun hpasses,
            h'.broke t ht htool fields haccepts f w' events hrun hpasses]
      | ok v =>
        rw [h.returned t ht htool fields haccepts v w' events hrun,
          h'.returned t ht htool fields haccepts v w' events hrun]
    · rw [h.rejected t ht htool s hsignature hrejects, h'.rejected t ht htool s hsignature hrejects]
  · rw [h.unknown hname, h'.unknown hname]

theorem execute_of_accepts (ht : t ∈ r.tools) (hname : t.name = name)
    (haccepts : t.Accepts given fields) : r.execute name (.obj given) = runTool t fields := by
  unfold execute
  rw [find?_eq_some_iff.2 ⟨ht, hname⟩]
  dsimp only
  rw [arguments_of_accepts haccepts]
  rfl

/-- The execution of a call settles it. -/
theorem settles_execute (r : Registry ω) (name : Text) (given : Json.Fields) (w : ω) :
    r.Settles name given w ((r.execute name (.obj given)).run w) where
  unknown hname := by
    rw [execute, find?_eq_none_iff.2 hname]
    rfl
  known f hf hkind := by
    -- a tool's own failure of this kind has been reported as one of the tool
    rcases of_execute_error hf with ⟨hmissing, -⟩ | htool | htransient
    · exact find?_eq_none_iff.1 hmissing
    · rw [hkind] at htool
      cases htool
    · rw [Failure.isTransient_eq_false (.inl hkind)] at htransient
      cases htransient
  rejected t ht hname s hsignature hrejects := by
    rw [execute, find?_eq_some_iff.2 ⟨ht, hname⟩]
    dsimp only
    rw [arguments_of_rejects hsignature hrejects, hname]
    rfl
  returned t ht hname fields haccepts v w' events hrun := by
    rw [execute_of_accepts ht hname haccepts, runTool_run, hrun, hname]
  passed t ht hname fields haccepts f w' events hrun hpasses := by
    rw [execute_of_accepts ht hname haccepts, runTool_run, hrun, hname]
    exact if_pos (passesOn_iff.2 hpasses)
  broke t ht hname fields haccepts f w' events hrun hstops := by
    rw [execute_of_accepts ht hname haccepts, runTool_run, hrun, hname]
    exact if_neg (mt passesOn_iff.1 hstops)
  decided := exists_decided given
  contained f hf := by
    rcases of_execute_error hf with ⟨-, hunknown⟩ | hrest
    · exact .inl hunknown
    · exact .inr hrest

/-- What the execution of a call comes to, is exactly what settles it. -/
theorem settles_iff (r : Registry ω) (name : Text) (given : Json.Fields) (w : ω)
    (o : Outcome ω ToolValue) :
    r.Settles name given w o ↔ o = (r.execute name (.obj given)).run w := by
  constructor
  · exact fun h => h.unique (r.settles_execute name given w)
  · rintro rfl
    exact r.settles_execute name given w

/-! ### A tool that breaks -/

/-- A registry whose only tool takes a text and a count, and asks in vain for another tool. -/
def breaking : Registry Unit where
  tools := [⟨"echo", [], some Rehearsal.echoSignature, fun _ => Act.fail (.unknownTool "other")⟩]
  distinct := by simp

/-- A text that is missing and a count that is none are told together; with an unknown argument and
without a count the tool is run, and its failure is reported as its own. -/
theorem settles_iff_breaking :
    (breaking.execute "echo" (.record [("times", .text "x"), ("other", .null)])).run () =
        ⟨.error (.toolFailed "echo" (Text.ofString ("invalid arguments (text: Field required; " ++
          "times: Input should be a valid integer, unable to parse string as an integer)"))
          (some .validation)), (), []⟩ ∧
      (breaking.execute "echo" (.record [("other", .null), ("text", .text "a")])).run () =
        ⟨.error (.toolFailed "echo" (Text.ofString "UnknownToolError: Unknown tool: other")
          (some .unknownTool)), (),
          [.ran "echo" (.record [("text", .text "a"), ("times", .int 1)]),
            .noticed (.toolBroke "echo" (.unknownTool "other"))]⟩ := by
  constructor
  · have hrejects : Rehearsal.echoSignature.Rejects
        [(Text.ofString "times", .text "x"), (Text.ofString "other", .null)] :=
      ⟨_, List.mem_cons_self, nofun⟩
    have hreport : argumentReport (Rehearsal.echoSignature.problems
          [(Text.ofString "times", .text "x"), (Text.ofString "other", .null)]) =
        "invalid arguments (text: Field required; " ++
          "times: Input should be a valid integer, unable to parse string as an integer)" := by
      decide +kernel
    rw [← hreport]
    exact ((breaking.settles_iff "echo" _ () _).2 rfl).rejected _ List.mem_cons_self rfl _ rfl hrejects
  · have haccepts : Rehearsal.echoSignature.Accepts
        [(Text.ofString "other", .null), (Text.ofString "text", .text "a")]
        [(Text.ofString "text", .text "a"), (Text.ofString "times", .int 1)] :=
      .cons ⟨rfl, rfl⟩ (.cons ⟨rfl, rfl⟩ .nil)
    exact ((breaking.settles_iff "echo" _ () _).2 rfl).broke _ List.mem_cons_self rfl _ haccepts
      (.unknownTool "other") () [] rfl (by decide)

end Registry
end ReleaseNotes
