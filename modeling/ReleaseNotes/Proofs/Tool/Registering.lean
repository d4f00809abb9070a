/-
The registration of tools.

Calls that register tools are made on a registry one after another, and some of them fail.  What one
call does depends on its name alone: if the name is taken, the call fails and the registry stays as
it is, and otherwise the call's tool comes last.  So the tools are always those of the calls that
succeeded, in their order, and the first call of a name is the one that counts: the registry lists
its tool and sends the calls of the name to it, whatever is registered later.

Main statements:
* `Registry.enter_of_mem`, `Registry.enter_of_not_mem` — what one call comes to;
* `Registry.tools_session` — the tools after some calls;
* `Registry.session_succeeded` — the calls that failed might as well not have been made;
* `Registry.Serves` — the calls of a name go to a tool;
* `Registry.Reflects`, `Registry.session_reflects` — what a registry shows of the calls made on it.
-/
import ReleaseNotes.Proofs.Tool.Outcomes
import ReleaseNotes.Proofs.Tool.Sections
import ReleaseNotes.Tool.CommitTools
import ReleaseNotes.Tool.Registration

namespace ReleaseNotes

variable {ω : Type}

/-! ### Calls and what they come to -/

namespace Registration

/-- What a call hands back if it succeeds: the function that it decorates. -/
def handed : Registration ω → Option (Tool.Work ω)
  | direct _ => none
  | decorating _ _ _ work => some work

/-- The calls that succeeded, in order. -/
def succeeded (log : List (Registration ω × Answer ω)) : List (Registration ω) :=
  log.filterMap fun (c, answer) => answer.toOption.map fun _ => c

variable {c : Registration ω} {log : List (Registration ω × Answer ω)}

@[simp] theorem succeeded_cons_ok (c : Registration ω) (work? : Option (Tool.Work ω))
    (log : List (Registration ω × Answer ω)) :
    succeeded ((c, .ok work?) :: log) = c :: succeeded log := rfl

@[simp] theorem succeeded_cons_error (c : Registration ω) (f : Failure)
    (log : List (Registration ω × Answer ω)) :
    succeeded ((c, .error f) :: log) = succeeded log := rfl

theorem mem_succeeded : c ∈ succeeded log ↔ ∃ work?, (c, .ok work?) ∈ log := by
  rw [succeeded, List.mem_filterMap]
  constructor
  · rintro ⟨⟨d, answer⟩, hd, heq⟩
    cases answer with
    | error f => cases heq
    | ok work? =>
      cases heq
      exact ⟨work?, hd⟩
  · rintro ⟨work?, hmem⟩
    exact ⟨_, hmem, rfl⟩

end Registration

open Registration

namespace Registry

variable {r : Registry ω} {c : Registration ω} {calls : List (Registration ω)}

/-! ### One call -/

theorem register_of_mem {t : Tool ω} (h : t.name ∈ r.names) :
    r.register t = .error (.duplicateTool t.name) := dif_pos h

theorem register_of_not_mem {t : Tool ω} (h : t.name ∉ r.names) :
    ∃ r', r.register t = .ok r' ∧ r'.tools = r.tools ++ [t] := ⟨_, dif_neg h, rfl⟩

/-- Both kinds of call register their tool. -/
theorem enter_eq (r : Registry ω) (c : Registration ω) :
    r.enter c = match r.register c.tool with
      | .ok r' => (.ok c.handed, r')
      | .error f => (.error f, r) := by
  cases c with
  | direct t => rfl
  | decorating name description signature work =>
    rw [enter, decorate, tool]
    cases r.register ⟨name, description, signature, work⟩ <;> rfl

/-- A call whose name is taken fails, and the registry stays as it is. -/
theorem enter_of_mem (h : c.name ∈ r.names) :
    r.enter c = (.error (.duplicateTool c.name), r) := by
  have hregister : r.register c.tool = .error (.duplicateTool c.name) := register_of_mem h
  rw [enter_eq, hregister]

/-- A call whose name is free succeeds, and its tool comes last. -/
theorem enter_of_not_mem (h : c.name ∉ r.names) :
    ∃ r', r.enter c = (.ok c.handed, r') ∧ r'.tools = r.tools ++ [c.tool] := by
  obtain ⟨r', hregister, htools⟩ := register_of_not_mem (t := c.tool) h
  refine ⟨r', ?_, htools⟩
  rw [enter_eq, hregister]

/-- A call that fails leaves the registry as it is. -/
theorem enter_of_error {f : Failure} (h : (r.enter c).1 = .error f) : (r.enter c).2 = r := by
  by_cases hname : c.name ∈ r.names
  · rw [enter_of_mem hname]
  · obtain ⟨r', henter, -⟩ := enter_of_not_mem hname
    rw [henter] at h
    cases h

/-! ### One call after another -/

theorem session_cons (r : Registry ω) (c : Registration ω) (rest : List (Registration ω)) :
    r.session (c :: rest) =
      ((c, (r.enter c).1) :: ((r.enter c).2.session rest).1, ((r.enter c).2.session rest).2) := rfl

theorem session_append (r : Registry ω) (before later : List (Registration ω)) :
    r.session (before ++ later) =
      ((r.session before).1 ++ ((r.session before).2.session later).1,
        ((r.session before).2.session later).2) := by
  induction before generalizing r with
  | nil => rfl
  | cons c before ih => rw [List.cons_append, session_cons, ih, session_cons]; rfl

/-- The log tells of all calls, in their order. -/
theorem map_fst_session (r : Registry ω) (calls : List (Registration ω)) :
    (r.session calls).1.map Prod.fst = calls := by
  induction calls generalizing r with
  | nil => rfl
  | cons c rest ih => rw [session_cons, List.map_cons, ih]

/-- The tools of the calls that succeed come behind those that are there already. -/
theorem tools_session (r : Registry ω) (calls : List (Registration ω)) :
    (r.session calls).2.tools = r.tools ++ (succeeded (r.session calls).1).map tool := by
  induction calls generalizing r with
  | nil => exact (List.append_nil _).symm
  | cons c rest ih =>
    rw [session_cons]
    by_cases hname : c.name ∈ r.names
    · -- the rest of the calls meets the registry as it is
      rw [enter_of_mem hname, succeeded_cons_error]
      exact ih r
    · -- the rest of the calls meets a registry with one tool more
      obtain ⟨r', henter, htools⟩ := enter_of_not_mem hname
      rw [henter, succeeded_cons_ok, List.map_cons, List.append_cons, ← htools]
      exact ih r'

/-- The calls that failed might as well not have been made: the others come to the same without
them, and so does the registry. -/
theorem session_succeeded (r : Registry ω) (calls : List (Registration ω)) :
    r.session (succeeded (r.session calls).1) =
      ((r.session calls).1.filter fun e => e.2.isOk, (r.session calls).2) := by
  induction calls generalizing r with
  | nil => rfl
  | cons c rest ih =>
    rw [session_cons]
    by_cases hname : c.name ∈ r.names
    · rw [enter_of_mem hname, succeeded_cons_error]
      exact ih r
    · obtain ⟨r', henter, -⟩ := enter_of_not_mem hname
      rw [henter, succeeded_cons_ok, session_cons, henter]
      show ((c, .ok c.handed) :: (r'.session (succeeded (r'.session rest).1)).1,
        (r'.session (succeeded (r'.session rest).1)).2) = _
      rw [ih r']
      rfl

/-- What a call came to that stands in a log: it is what the call comes to after the calls before
it. -/
theorem session_split {before later : List (Registration ω × Answer ω)} {answer : Answer ω}
    (h : (r.session calls).1 = before ++ (c, answer) :: later) :
    (r.session (before.map Prod.fst)).1 = before ∧
      answer = ((r.session (before.map Prod.fst)).2.enter c).1 := by
  have hcalls := r.map_fst_session calls
  rw [h, List.map_append, List.map_cons] at hcalls
  rw [← hcalls, session_append] at h
  -- both ways to split the log do so at the same place
  have hlength : (r.session (before.map Prod.fst)).1.length = before.length := by
    have hmap := congrArg List.length (r.map_fst_session (before.map Prod.fst))
    simpa only [List.length_map] using hmap
  obtain ⟨hbefore, hrest⟩ := List.append_inj h hlength
  refine ⟨hbefore, ?_⟩
  rw [session_cons] at hrest
  exact (Prod.ext_iff.1 (List.cons.inj hrest).1).2.symm

/-- A call that stands in a log as one that failed left the registry as it was. -/
theorem session_of_error {before later : List (Registration ω × Answer ω)} {f : Failure}
    (h : (r.session calls).1 = before ++ (c, .error f) :: later) :
    (r.session (before.map Prod.fst ++ [c])).2 = (r.session (before.map Prod.fst)).2 := by
  rw [session_append, session_cons]
  exact enter_of_error (session_split h).2.symm

/-! ### A registry that was empty -/

theorem tools_eq (calls : List (Registration ω)) :
    (empty.session calls).2.tools = (succeeded (empty.session calls).1).map tool := by
  rw [tools_session]
  rfl

theorem names_eq (calls : List (Registration ω)) :
    (empty.session calls).2.names = (succeeded (empty.session calls).1).map Registration.name := by
  rw [names, tools_eq, List.map_map]
  rfl

/-- A call finds its name taken by a call before it, or it succeeds. -/
theorem answer_cases {before later : List (Registration ω × Answer ω)} {answer : Answer ω}
    (h : (empty.session calls).1 = before ++ (c, answer) :: later) :
    (∃ d ∈ succeeded before, d.name = c.name) ∧ answer = .error (.duplicateTool c.name) ∨
      (¬ ∃ d ∈ succeeded before, d.name = c.name) ∧ answer = .ok c.handed := by
  obtain ⟨hbefore, hanswer⟩ := session_split h
  have hnames := names_eq (before.map Prod.fst)
  rw [hbefore] at hnames
  have htaken : c.name ∈ (empty.session (before.map Prod.fst)).2.names ↔
      ∃ d ∈ succeeded before, d.name = c.name := by
    rw [hnames, List.mem_map]
  by_cases hname : c.name ∈ (empty.session (before.map Prod.fst)).2.names
  · rw [enter_of_mem hname] at hanswer
    exact .inl ⟨htaken.1 hname, hanswer⟩
  · obtain ⟨r', henter, -⟩ := enter_of_not_mem hname
    rw [henter] at hanswer
    exact .inr ⟨mt htaken.2 hname, hanswer⟩

theorem answer_of_mem {answer : Answer ω} (h : (c, answer) ∈ (empty.session calls).1) :
    answer = .error (.duplicateTool c.name) ∨ answer = .ok c.handed := by
  obtain ⟨before, later, hlog⟩ := List.append_of_mem h
  exact (answer_cases hlog).imp And.right And.right

/-- Only the names of calls are registered. -/
theorem not_mem_names {name : Text} (h : ∀ e ∈ (empty.session calls).1, e.1.name ≠ name) :
    name ∉ (empty.session calls).2.names := by
  rw [names_eq, List.mem_map]
  rintro ⟨c, hc, hname⟩
  obtain ⟨work?, hmem⟩ := mem_succeeded.1 hc
  exact h _ hmem hname

/-- The first call of a name succeeds, and its tool is there ever after. -/
theorem tool_mem_of_first {before later : List (Registration ω × Answer ω)} {answer : Answer ω}
    (h : (empty.session calls).1 = before ++ (c, answer) :: later)
    (hfirst : ∀ e ∈ before, e.1.name ≠ c.name) : c.tool ∈ (empty.session calls).2.tools := by
  rcases answer_cases h with ⟨⟨d, hd, hname⟩, -⟩ | ⟨-, rfl⟩
  · obtain ⟨work?, hmem⟩ := mem_succeeded.1 hd
    exact absurd hname (hfirst _ hmem)
  · have hmem : (c, .ok c.handed) ∈ (empty.session calls).1 := by
      rw [h]
      exact List.mem_append_right _ List.mem_cons_self
    rw [tools_eq]
    exact List.mem_map_of_mem (mem_succeeded.2 ⟨_, hmem⟩)

/-! ### What a registry shows -/

/-- Two registries that cannot be told apart: by their names, by their lists of tools, or by what
any call of a tool comes to. -/
structure Alike (r r' : Registry ω) : Prop where
  names : r.names = r'.names
  describe : r.describe = r'.describe
  execute : ∀ name given w, (r.execute name given).run w = (r'.execute name given).run w

theorem Alike.refl (r : Registry ω) : Alike r r := ⟨rfl, rfl, fun _ _ _ => rfl⟩

/-- The calls of a name go to a tool. -/
structure Serves (r : Registry ω) (name : Text) (t : Tool ω) : Prop where
  /-- The tool takes the arguments of a call, or its own signature rejects them. -/
  decided : ∀ given, (∃ fields, t.Accepts given fields) ∨ t.Rejects given
  /-- The tool is run on the arguments that it takes. -/
  accepted : ∀ given fields, t.Accepts given fields →
    r.execute name (.obj given) = runTool t fields
  /-- If its signature rejects the arguments, no tool is run. -/
  rejected : ∀ given s, t.signature = some s → s.Rejects given → ∀ w,
    (r.execute name (.obj given)).run w =
      ⟨.error (.toolFailed name (argumentReport (s.problems given)) (some .validation)), w, []⟩

theorem serves_of_mem {t : Tool ω} (ht : t ∈ r.tools) : r.Serves t.name t where
  decided := t.accepts_or_rejects
  accepted _ _ haccepts := execute_of_accepts ht rfl haccepts
  rejected given s hsignature hrejects w :=
    (r.settles_execute t.name given w).rejected t ht rfl s hsignature hrejects

/-- What a registry that was empty shows of the calls made on it, and of what they came to. -/
structure Reflects (r : Registry ω) (log : List (Registration ω × Answer ω)) : Prop where
  /-- A call fails just when a call before it that succeeded has its name. -/
  fails_iff : ∀ before c answer later, log = before ++ (c, answer) :: later →
    ((∃ f, answer = .error f) ↔ ∃ d ∈ succeeded before, d.name = c.name)
  /-- A call that fails tells that its name is taken. -/
  failure : ∀ c f, (c, .error f) ∈ log → f = .duplicateTool c.name ∧ f.kind = .value
  /-- A call that succeeds hands back the function that it decorates. -/
  handed : ∀ c work?, (c, .ok work?) ∈ log → work? = c.handed
  /-- A call that fails changes nothing. -/
  unchanged : ∀ before c f later, log = before ++ (c, .error f) :: later →
    Alike (empty.session (before.map Prod.fst ++ [c])).2 (empty.session (before.map Prod.fst)).2
  /-- Without the calls that failed, all would have come to the same. -/
  forgotten : empty.session (succeeded log) = (log.filter fun e => e.2.isOk, r)
  /-- The names are those of the calls that succeeded, in their order. -/
  names : r.names = (succeeded log).map Registration.name
  /-- No name is there twice. -/
  distinct : r.names.Nodup
  /-- The list of tools has a section for each of the names, in the same order. -/
  describe : r.describe = Text.joinWith "\n\n"
    (((succeeded log).map fun c => c.tool.sectionText).modifyLast Text.withoutBlanksAtEnd)
  /-- A name that no call has goes to no tool. -/
  unknown : ∀ name, (∀ e ∈ log, e.1.name ≠ name) → ∀ given w,
    (r.execute name given).run w = ⟨.error (.unknownTool name), w, []⟩
  /-- Any other name goes to the tool of the first call that has it. -/
  first : ∀ before c answer later, log = before ++ (c, answer) :: later →
    (∀ e ∈ before, e.1.name ≠ c.name) → r.Serves c.name c.tool

/-- A registry that was empty shows of any calls made on it what they came to. -/
theorem session_reflects (calls : List (Registration ω)) :
    (empty.session calls).1.map Prod.fst = calls ∧
      (empty.session calls).2.Reflects (empty.session calls).1 := by
  refine ⟨map_fst_session _ calls, ?_⟩
  constructor
  case fails_iff =>
    intro before c answer later hlog
    rcases answer_cases hlog with ⟨htaken, rfl⟩ | ⟨hfree, rfl⟩
    · exact iff_of_true ⟨_, rfl⟩ htaken
    · exact iff_of_false nofun hfree
  case failure =>
    intro c f hmem
    rcases answer_of_mem hmem with heq | heq <;> cases heq
    exact ⟨rfl, rfl⟩
  case handed =>
    intro c work? hmem
    rcases answer_of_mem hmem with heq | heq <;> cases heq
    rfl
  case unchanged =>
    intro before c f later hlog
    rw [session_of_error hlog]
    exact .refl _
  case forgotten => exact session_succeeded _ calls
  case names => exact names_eq calls
  case distinct => exact (empty.session calls).2.distinct
  case describe =>
    rw [describe_eq, tools_eq, List.map_map]
    rfl
  case unknown =>
    intro name hnone given w
    rw [execute, find?_eq_none_iff.2 (not_mem_names hnone)]
    rfl
  case first =>
    intro before c answer later hlog hfirst
    exact serves_of_mem (tool_mem_of_first hlog hfirst)

/-! ### A name that is taken -/

/-- Three calls, of which the second one has the name of the first. -/
def clashing : List (Registration Unit) := [
  .direct ⟨"echo", [], some Rehearsal.echoSignature, fun _ => Act.of (.ok (.data (.text "first")))⟩,
  .decorating "echo" [] none fun _ => Act.of (.ok (.data (.text "second"))),
  .decorating "ping" [] none fun _ => Act.of (.ok (.data (.text "pong")))]

/-- The second call fails, and the calls of its name go on to meet the signature and the function of
the first. -/
theorem session_reflects_clashing :
    (empty.session clashing).1.map (fun e => e.2.isOk) = [true, false, true] ∧
      (empty.session clashing).2.names = [Text.ofString "echo", Text.ofString "ping"] ∧
      ((empty.session clashing).2.execute "echo" (.record [])).run () =
        ⟨.error (.toolFailed "echo" (Text.ofString "invalid arguments (text: Field required)")
          (some .validation)), (), []⟩ ∧
      ((empty.session clashing).2.execute "echo" (.record [("text", .text "a")])).run () =
        ⟨.ok (.data (.text "first")), (),
          [.ran "echo" (.record [("text", .text "a"), ("times", .int 1)])]⟩ := by
  have h := (session_reflects clashing).2
  have hserves := h.first [] _ _ _ rfl nofun
  refine ⟨rfl, h.names, ?_, ?_⟩
  · have hrejects : Rehearsal.echoSignature.Rejects [] := ⟨_, List.mem_cons_self, nofun⟩
    exact hserves.rejected [] _ rfl hrejects ()
  · have haccepts : Rehearsal.echoSignature.Accepts [(Text.ofString "text", .text "a")]
        [(Text.ofString "text", .text "a"), (Text.ofString "times", .int 1)] :=
      .cons ⟨rfl, rfl⟩ (.cons ⟨rfl, rfl⟩ .nil)
    exact congrArg (Act.run · ()) (hserves.accepted _ _ haccepts)

end Registry

end ReleaseNotes
