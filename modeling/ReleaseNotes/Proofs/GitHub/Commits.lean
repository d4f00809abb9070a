/-
Calls of the tools on commits.

A call of one of the two tools on commits, over the GitHub client, sends one request at each of its
attempts.  An answer that passes is worth another attempt, and a dialogue whose attempts all meet
such answers is given up.  Whatever else is answered is reported on: as a success if the answer
tells a commit, and as a failure otherwise.

Main statements:
* `CommitTool` — the two tools, and what they show of a commit;
* `CommitDiff.IsCountable`, `CommitTool.isWritable_shows` — when a tool can write what it shows;
* `CommitTools.Returns`, `CommitTool.returns_shows` — what a call returns once the commit is fetched;
* `CommitTool.sends` — one attempt of a call;
* `CommitTool.dispatch_withheld` — a call whose request is not sent;
* `CommitTool.dispatch_passing`, `CommitTool.dispatch_answered` — the calls whose request is;
* `CommitTool.run_dispatch` — a call in the whole of its dialogue;
* `CommitTool.overlong_withheld` — a hash of hexadecimal digits that no request is sent for.
-/
import Mathlib.Algebra.Order.BigOperators.Group.List
import Mathlib.Algebra.Order.Group.Nat
import ReleaseNotes.Proofs.Dialogue.Cap
import ReleaseNotes.Proofs.Dialogue.Moments
import ReleaseNotes.Proofs.Tool.Arguments
import ReleaseNotes.Proofs.Tool.Written
import ReleaseNotes.Proofs.Version.Overlong
import ReleaseNotes.Proofs.Web.Addresses
import ReleaseNotes.Proofs.Web.Lasting
import ReleaseNotes.Proofs.Web.Wire

namespace ReleaseNotes

open Dialogue

/-! ### What a tool shows of a commit -/

/-- The counts of a commit are short enough to be written. -/
structure CommitDiff.IsCountable (v : CommitDiff) : Prop where
  additions : (Numeral.digits v.additions).length ≤ Numeral.maxDigits
  deletions : (Numeral.digits v.deletions).length ≤ Numeral.maxDigits
  files : (Numeral.digits v.files.length).length ≤ Numeral.maxDigits

theorem Numeral.length_digits_mono {m n : Nat} (hmn : m ≤ n)
    (hn : (digits n).length ≤ maxDigits) : (digits m).length ≤ maxDigits := by
  have hpos : 0 < maxDigits := by decide
  rw [Version.length_digits_le_iff hpos] at hn ⊢
  omega

theorem le_foldr_add {α : Type} (g : α → Nat) {l : List α} {a : α} (ha : a ∈ l) :
    g a ≤ l.foldr (fun b n => g b + n) 0 := by
  have hsum : g a ≤ (l.map g).sum :=
    List.single_le_sum (fun n _ => Nat.zero_le n) (g a) (List.mem_map_of_mem ha)
  rwa [List.sum, List.foldr_map] at hsum

theorem Json.isWritable_nat {n : Nat} :
    (nat n).isWritable = true ↔ (Numeral.digits n).length ≤ Numeral.maxDigits := by
  simp [nat, isWritable]

/-- The tools on commits. -/
inductive CommitTool where
  | diff
  | impact

namespace CommitTool

variable {ω : Type}

/-- The name of a tool. -/
def name : CommitTool → String
  | diff => "get_commit_diff"
  | impact => "analyze_commit_impact"

/-- What a tool shows of a commit. -/
def shows (limit : Int) : CommitTool → CommitDiff → Json
  | diff, v => (CommitTools.shownDiff limit v).toJson
  | impact, v => (Impact.ofDiff v).toJson

theorem isWritable_shows (t : CommitTool) (limit : Int) {v : CommitDiff} (h : v.IsCountable) :
    (t.shows limit v).isWritable = true := by
  cases t with
  | diff =>
    -- the counts of a file are part of those of the commit
    have hfiles : Json.areWritable ((CommitTools.shownDiff limit v).files.map
        ChangedFile.toJson) = true := by
      rw [Json.areWritable_iff]
      intro j hj
      obtain ⟨f, hf, rfl⟩ := List.mem_map.1 hj
      obtain ⟨g, hg, rfl⟩ := List.mem_map.1 hf
      have hadditions := Json.isWritable_nat.2
        (Numeral.length_digits_mono (le_foldr_add ChangedFile.additions hg) h.additions)
      have hdeletions := Json.isWritable_nat.2
        (Numeral.length_digits_mono (le_foldr_add ChangedFile.deletions hg) h.deletions)
      simp [ChangedFile.toJson, CommitTools.shownFile, Json.record, Json.isWritable,
        Json.fieldsAreWritable, hadditions, hdeletions]
    simp [shows, CommitDiff.toJson, Json.record, Json.isWritable, Json.fieldsAreWritable, hfiles]
  | impact =>
    have hareas : Json.areWritable ((Impact.areasOf (Impact.pathsOf v)).map .str) = true := by
      rw [Json.areWritable_iff]
      intro j hj
      obtain ⟨a, -, rfl⟩ := List.mem_map.1 hj
      rfl
    have hcounts : ∀ n, n = v.files.length ∨ n = v.additions ∨ n = v.deletions →
        (Json.nat n).isWritable = true := by
      rintro n (rfl | rfl | rfl)
      · exact Json.isWritable_nat.2 h.files
      · exact Json.isWritable_nat.2 h.additions
      · exact Json.isWritable_nat.2 h.deletions
    simp [shows, Impact.toJson, Json.record, Json.isWritable, Json.fieldsAreWritable, Json.text,
      hareas, Impact.ofDiff, hcounts]

theorem encode_shows (t : CommitTool) (limit : Int) {v : CommitDiff} (h : v.IsCountable) :
    ∃ text, (ToolValue.data (t.shows limit v)).encode = .ok text := by
  have hwritable := t.isWritable_shows limit h
  have hencode : (ToolValue.data (t.shows limit v)).encode =
      ToolValue.encodeJson (t.shows limit v) := by cases t <;> rfl
  rw [hencode, ToolValue.encodeJson, if_pos hwritable]
  exact ⟨_, rfl⟩

/-! ### One attempt of a call -/

/-- A dialogue whose tools are those on commits. -/
def commitDialogue (service : Service ω) (source : CommitSource ω) (repository : Text)
    (limit : Int) (settings : DialogueSettings) : Dialogue ω :=
  ⟨service, (CommitTools.registry source repository limit : Registry ω), settings⟩

/-- The registry has each of the tools. -/
theorem exists_tool (t : CommitTool) (source : CommitSource ω) (repository : Text) (limit : Int) :
    ∃ tool : Tool ω, (CommitTools.registry source repository limit).find? t.name = some tool ∧
      tool.name = t.name ∧ tool.signature = some CommitTools.signature ∧
      ∀ fields, tool.run fields =
        (fun v => .data (t.shows limit v)) <$> source repository (CommitTools.hash fields) := by
  cases t with
  | diff => exact ⟨CommitTools.diffTool source repository limit, rfl, rfl, rfl, fun _ => rfl⟩
  | impact => exact ⟨CommitTools.impactTool source repository, rfl, rfl, rfl, fun _ => rfl⟩

/-- Arguments with a hash that is long enough are accepted. -/
theorem check_signature {arguments : Json.Fields} {sha : String}
    (given : Json.lookup (Text.ofString "sha") arguments = some (.text sha))
    (long : 4 ≤ sha.length) :
    CommitTools.signature.check (.obj arguments) =
      .ok [(Text.ofString "sha", .text sha)] := by
  have hhash : Check.stringOf 4 (.text sha) = .ok sha := by
    have hlength : ¬ sha.length < 4 := by omega
    simp [Check.stringOf, Check.string, Json.text, Validated.andThen, hlength]
  have hkind : (ArgumentKind.text (some 4)).check (.text sha) = .ok (.text sha) := by
    show Validated.map Json.text (Check.stringOf 4 (.text sha)) = _
    rw [hhash]
    rfl
  refine (Signature.check_eq_ok_iff _).2 (.cons ⟨rfl, ?_⟩ .nil)
  rw [Argument.Takes, given]
  exact hkind

/-- A call with such a hash runs the tool, which fetches the commit. -/
theorem execute_eq (t : CommitTool) (source : CommitSource ω) (repository : Text) (limit : Int)
    {arguments : Json.Fields} {sha : String}
    (given : Json.lookup (Text.ofString "sha") arguments = some (.text sha))
    (long : 4 ≤ sha.length) :
    ∃ tool : Tool ω, ∃ fields, tool.name = t.name ∧
      tool.run fields = (fun v => .data (t.shows limit v)) <$> source repository sha ∧
      (CommitTools.registry source repository limit).execute t.name (.obj arguments) =
        Registry.runTool tool fields := by
  obtain ⟨tool, hfind, hname, hsignature, hrun⟩ := t.exists_tool source repository limit
  refine ⟨tool, [(Text.ofString "sha", .text sha)], hname, hrun _, ?_⟩
  have harguments : Registry.arguments tool (.obj arguments) =
      .ok [(Text.ofString "sha", .text sha)] := by
    simp only [Registry.arguments, hsignature, check_signature given long]
  simp only [Registry.execute, hfind, harguments]
  rfl

end CommitTool

/-- What a call of a tool returns, wherever commits come from, once this commit is fetched for a hash
that is long enough. -/
def CommitTools.Returns (name : String) (limit : Int) (d : CommitDiff) (j : Json) : Prop :=
  ∀ ⦃ω : Type⦄ (source : CommitSource ω) (repository : Text) ⦃arguments : Json.Fields⦄
    ⦃sha : String⦄ ⦃w w' : ω⦄ ⦃events : List Event⦄,
    Json.lookup (Text.ofString "sha") arguments = some (.text sha) → 4 ≤ sha.length →
    (source repository sha).run w = ⟨.ok d, w', events⟩ →
    ∃ ran, ((registry source repository limit).execute name (.obj arguments)).run w =
      ⟨.ok (.data j), w', ran :: events⟩

theorem CommitTool.returns_shows (t : CommitTool) (limit : Int) (d : CommitDiff) :
    CommitTools.Returns t.name limit d (t.shows limit d) := by
  intro ω source repository arguments sha w w' events given long fetched
  obtain ⟨tool, fields, -, hrun, hexecute⟩ := t.execute_eq source repository limit given long
  have htool : (tool.run fields).run w = ⟨.ok (.data (t.shows limit d)), w', events⟩ := by
    rw [hrun, Act.map_run, fetched]
    rfl
  refine ⟨.ran tool.name (.obj fields), ?_⟩
  rw [hexecute, Registry.runTool_run, htool]

namespace GitHubClient

variable {ω : Type}

/-- What keeps the request for a commit from being sent: the token is not ASCII, or the address is
refused. -/
def withheld? (c : GitHubClient) (repository sha : Text) : Option Failure :=
  match c.obstacle? with
  | some fault => some (.unencodable fault)
  | none => match Target.of (address repository sha) with
    | .error p => some p.failure
    | .ok _ => none

theorem source_run_of_withheld {c : GitHubClient} {repository sha : Text} {f : Failure}
    (h : c.withheld? repository sha = some f) (transport : Transport ω) (w : ω) :
    (c.source transport repository sha).run w = ⟨.error f, w, []⟩ := by
  unfold withheld? at h
  rw [source]
  cases hobstacle : c.obstacle? with
  | some fault =>
    rw [hobstacle] at h
    cases h
    rfl
  | none =>
    rw [hobstacle] at h
    cases htarget : Target.of (address repository sha) with
    | ok target =>
      rw [htarget] at h
      cases h
    | error p =>
      rw [htarget] at h
      cases h
      rfl

/-- A request that is withheld fails for good, and not as a tool does. -/
theorem passesOn_of_withheld {c : GitHubClient} {repository sha : Text} {f : Failure}
    (h : c.withheld? repository sha = some f) : Registry.passesOn f = false := by
  unfold withheld? at h
  cases hobstacle : c.obstacle? with
  | some fault =>
    rw [hobstacle] at h
    cases h
    rfl
  | none =>
    rw [hobstacle] at h
    cases htarget : Target.of (address repository sha) with
    | ok target =>
      rw [htarget] at h
      cases h
    | error p =>
      rw [htarget] at h
      cases h
      cases p <;> rfl

theorem source_run {c : GitHubClient} {repository sha : Text} {target : Target}
    (hobstacle : c.obstacle? = none) (htarget : Target.of (address repository sha) = .ok target)
    (wire : Wire ω) (w : ω) :
    (c.source wire.transport repository sha).run w =
      ⟨read target sha (wire (c.request target) w).1, (wire (c.request target) w).2,
        [.requested (c.request target)]⟩ := by
  simp only [source, hobstacle, htarget]
  rfl

end GitHubClient

namespace CommitTool

variable {ω : Type}

/-- What an attempt of a call makes of an answer. -/
def tell (t : CommitTool) (limit : Int) (target : Target) (sha : String) (x : WebAnswer) :
    Except Failure ToolValue :=
  Registry.reported t.name
    ((GitHubClient.read target sha x).map fun v => .data (t.shows limit v))

/-- What an attempt makes of a passing answer is a transient failure. -/
theorem tell_of_passes (t : CommitTool) (limit : Int) (target : Target) (sha : String)
    {x : WebAnswer} (hx : x.IsOfTransport) (h : x.passes = true) :
    ∃ message cause, GitHubClient.read target sha x = .error (.transient message cause) ∧
      t.tell limit target sha x = .error (.transient message cause) := by
  obtain ⟨message, cause, hread⟩ := GitHubClient.read_of_passes target sha hx h
  exact ⟨message, cause, hread, by rw [tell, hread]; rfl⟩

/-- What an attempt makes of any other answer is a value that the tool shows of a commit, or a
failure of the tool. -/
theorem tell_of_not_passes (t : CommitTool) (limit : Int) (target : Target) (sha : String)
    {x : WebAnswer} (h : x.passes = false) :
    (∃ v, GitHubClient.commit? x = some v ∧
        t.tell limit target sha x = .ok (.data (t.shows limit v))) ∨
      GitHubClient.commit? x = none ∧
        ∃ f, t.tell limit target sha x = .error f ∧ f.kind = .toolExecution := by
  have hcommit := GitHubClient.toOption_read target sha x
  have hlasting := GitHubClient.lasting_read target sha h
  cases hread : GitHubClient.read target sha x with
  | ok v =>
    rw [hread] at hcommit
    exact .inl ⟨v, hcommit.symm, by rw [tell, hread]; rfl⟩
  | error f =>
    rw [hread] at hcommit
    refine .inr ⟨hcommit.symm, _, by rw [tell, hread]; rfl, ?_⟩
    -- a failure that is passed on all the same is one of a tool already
    split
    · next hpasses =>
      rcases Registry.passesOn_iff.1 hpasses with htransient | hkind
      · rw [hlasting f hread] at htransient
        cases htransient
      · exact hkind
    · rfl

section

variable {t : CommitTool} {c : GitHubClient} {wire : Wire ω} {repository : Text} {limit : Int}
  {service : Service ω} {settings : DialogueSettings} {call : ToolCall} {sha : String}
  {target : Target}

/-- One attempt of a call sends one request, and tells what is answered. -/
theorem sends (tool : call.tool = t.name)
    (given : Json.lookup (Text.ofString "sha") call.arguments = some (.text sha))
    (long : 4 ≤ sha.length) (hobstacle : c.obstacle? = none)
    (htarget : Target.of (GitHubClient.address repository sha) = .ok target) :
    Sends (Dialogue.trial (commitDialogue service (c.source wire.transport) repository limit
        settings) call)
      wire (c.request target) (t.tell limit target sha) := by
  obtain ⟨run, fields, hname, htool, hexecute⟩ := t.execute_eq (c.source wire.transport)
    repository limit given long
  have hfetched : ∀ w, (run.run fields).run w =
      ⟨(GitHubClient.read target sha (wire (c.request target) w).1).map
          fun v => .data (t.shows limit v), (wire (c.request target) w).2,
        [.requested (c.request target)]⟩ := by
    intro w
    rw [htool, Act.map_run, GitHubClient.source_run hobstacle htarget]
  have htools : (commitDialogue service (c.source wire.transport) repository limit settings).tools
      call = Registry.runTool run fields := by
    rw [← hexecute, ← tool]
    rfl
  have hevents : ∀ {β : Type} (view : Event → Option β), (∀ f,
      view (.inside (.noticed (.toolBroke run.name f))) = none) → ∀ w,
      (((Registry.runTool run fields).run w).events.map .inside).filterMap view =
        (view (.inside (.ran run.name (.obj fields)))).toList ++
          (view (.inside (.requested (c.request target)))).toList := by
    intro β view hbroke w
    rw [Registry.runTool_run, hfetched]
    rcases (GitHubClient.read target sha (wire (c.request target) w).1).map
      fun v => ToolValue.data (t.shows limit v) with f | v
    · dsimp only
      split <;> simp [Event.filterMap_cons_eq, hbroke]
    · simp [Event.filterMap_cons_eq]
  obtain ⟨hresult, hworld⟩ :
      (∀ w, ((Registry.runTool run fields).run w).result =
        t.tell limit target sha (wire (c.request target) w).1) ∧
      ∀ w, ((Registry.runTool run fields).run w).world = (wire (c.request target) w).2 := by
    constructor
    · intro w
      rw [(Registry.runTool_result run fields w).1, hfetched, hname]
      rfl
    · intro w
      rw [(Registry.runTool_result run fields w).2, hfetched]
  refine ⟨fun w => ?_, fun w => ?_, fun w => ?_, fun w => ?_⟩
  · rw [trial_run, htools, hresult]
  · rw [trial_run, htools, hworld]
  · rw [Outcome.requests, trial_run, htools, List.filterMap_append, hevents _ fun _ => rfl]
    rfl
  · rw [Outcome.sleeps, trial_run, htools, List.filterMap_append, hevents _ fun _ => rfl]
    rfl

/-! ### A call -/

/-- A call whose request is withheld: nothing is sent, nobody waits, and the call is reported on as
a failure. -/
theorem dispatch_withheld (wire : Wire ω) (tool : call.tool = t.name)
    (given : Json.lookup (Text.ofString "sha") call.arguments = some (.text sha))
    (long : 4 ≤ sha.length) {f : Failure} (hwithheld : c.withheld? repository sha = some f)
    (iteration : { n : Nat // 1 ≤ n }) (w : ω) :
    let o := ((commitDialogue service (c.source wire.transport) repository limit
      settings).dispatch iteration call).run w
    o.requests = [] ∧ o.sleeps = [] ∧
      ∃ r, o.result = .ok r ∧ r.origin = call.origin iteration ∧ r.ok = false := by
  set d := commitDialogue service (c.source wire.transport) repository limit settings with hd
  obtain ⟨run, fields, hname, htool, hexecute⟩ := t.execute_eq (c.source wire.transport)
    repository limit given long
  have htools : d.tools call = Registry.runTool run fields := by
    rw [← hexecute, ← tool]
    rfl
  have hfetched : (run.run fields).run w = ⟨.error f, w, []⟩ := by
    rw [htool, Act.map_run, GitHubClient.source_run_of_withheld hwithheld]
    rfl
  have hran : (Registry.runTool run fields).run w =
      ⟨.error (Registry.wrapped run.name f), w,
        [.ran run.name (.obj fields), .noticed (.toolBroke run.name f)]⟩ := by
    rw [Registry.runTool_run, hfetched]
    simp [GitHubClient.passesOn_of_withheld hwithheld]
  have htrial : (d.trial call).run w =
      ⟨.error (Registry.wrapped run.name f), w,
        [.inside (.ran run.name (.obj fields)), .inside (.noticed (.toolBroke run.name f)),
          .called call (.error (Registry.wrapped run.name f))]⟩ := by
    rw [trial_run, htools, hran]
    rfl
  -- a failure of the tool is not tried again
  have hattempt : (d.attempt (d.trial call)).run w = (d.trial call).run w := by
    refine RetryPolicy.run_of_settled fun g hg => ?_
    rw [htrial] at hg
    cases hg
    exact Failure.isTransient_eq_false (.inr rfl)
  have hresult := (d.dispatched_dispatch iteration call w).result_eq
  rw [hattempt, htrial] at hresult
  refine ⟨?_, ?_, _, hresult, rfl, rfl⟩
  · rw [Outcome.requests, d.filterMap_dispatch (fun _ _ => rfl) fun _ _ => rfl, hattempt, htrial]
    rfl
  · rw [Outcome.sleeps, d.filterMap_dispatch (fun _ _ => rfl) fun _ _ => rfl, hattempt, htrial]
    rfl

/-- A call all whose attempts are answered by passing answers: the same request is sent at each of
them, and the failure is that of the last. -/
theorem dispatch_passing (tool : call.tool = t.name)
    (given : Json.lookup (Text.ofString "sha") call.arguments = some (.text sha))
    (long : 4 ≤ sha.length) (hobstacle : c.obstacle? = none)
    (htarget : Target.of (GitHubClient.address repository sha) = .ok target)
    (iteration : { n : Nat // 1 ≤ n }) (w : ω)
    (htransport : ∀ i, (wire.answer (c.request target) w i).IsOfTransport)
    (hpasses : ∀ i < settings.retry.attempts.val,
      (wire.answer (c.request target) w i).passes = true) :
    let o := ((commitDialogue service (c.source wire.transport) repository limit
      settings).dispatch iteration call).run w
    o.requests = List.replicate settings.retry.attempts (c.request target) ∧
      o.sleeps = settings.retry.waits (settings.retry.attempts - 1) ∧
      ∃ message cause, o.result = .error (.transient message cause) ∧
        GitHubClient.read target sha
          (wire.answer (c.request target) w (settings.retry.attempts - 1)) =
            .error (.transient message cause) := by
  set d := commitDialogue service (c.source wire.transport) repository limit settings with hd
  have hone : 1 ≤ settings.retry.attempts.val := settings.retry.attempts.property
  have hsends : Sends (d.trial call) wire (c.request target) (t.tell limit target sha) :=
    sends tool given long hobstacle htarget
  obtain ⟨hresult, hrequests, hsleeps⟩ := hsends.run_passing settings.retry retryable w
    fun i hi => by
      obtain ⟨message, cause, -, htell⟩ :=
        t.tell_of_passes limit target sha (htransport i) (hpasses i hi)
      exact ⟨_, htell, rfl⟩
  obtain ⟨message, cause, hread, htell⟩ := t.tell_of_passes limit target sha
    (htransport (settings.retry.attempts - 1)) (hpasses (settings.retry.attempts - 1) (by omega))
  have hdispatch := (d.dispatched_dispatch iteration call w).result_eq
  rw [show (d.attempt (d.trial call)).run w =
    (settings.retry.run retryable (d.trial call)).run w from rfl, hresult, htell] at hdispatch
  refine ⟨?_, ?_, message, cause, hdispatch, hread⟩
  · rw [Outcome.requests, d.filterMap_dispatch (fun _ _ => rfl) fun _ _ => rfl]
    exact hrequests
  · rw [Outcome.sleeps, d.filterMap_dispatch (fun _ _ => rfl) fun _ _ => rfl]
    exact hsleeps

/-- A call that is answered by something else before its attempts are used up: the call is reported
on, as a success exactly if that answer tells a commit. -/
theorem dispatch_answered (tool : call.tool = t.name)
    (given : Json.lookup (Text.ofString "sha") call.arguments = some (.text sha))
    (long : 4 ≤ sha.length) (hobstacle : c.obstacle? = none)
    (htarget : Target.of (GitHubClient.address repository sha) = .ok target)
    (iteration : { n : Nat // 1 ≤ n }) (w : ω)
    (htransport : ∀ i, (wire.answer (c.request target) w i).IsOfTransport)
    {k : Nat} (hk : k < settings.retry.attempts)
    (hpasses : ∀ i < k, (wire.answer (c.request target) w i).passes = true)
    (hanswer : (wire.answer (c.request target) w k).passes = false)
    (hcount : ∀ v, GitHubClient.commit? (wire.answer (c.request target) w k) = some v →
      v.IsCountable) :
    let o := ((commitDialogue service (c.source wire.transport) repository limit
      settings).dispatch iteration call).run w
    o.requests = List.replicate (k + 1) (c.request target) ∧ o.sleeps = settings.retry.waits k ∧
      ∃ r, o.result = .ok r ∧ r.origin = call.origin iteration ∧
        (r.ok = true ↔
          (GitHubClient.commit? (wire.answer (c.request target) w k)).isSome = true) := by
  set d := commitDialogue service (c.source wire.transport) repository limit settings with hd
  have hsends : Sends (d.trial call) wire (c.request target) (t.tell limit target sha) :=
    sends tool given long hobstacle htarget
  have htold := t.tell_of_not_passes limit target sha hanswer
  obtain ⟨hresult, hrequests, hsleeps⟩ := hsends.run_settled settings.retry retryable hk w
    (fun i hi => by
      obtain ⟨message, cause, -, htell⟩ :=
        t.tell_of_passes limit target sha (htransport i) (hpasses i hi)
      exact ⟨_, htell, rfl⟩)
    (fun f hf => by
      -- what is told of this answer is not tried again
      rcases htold with ⟨v, -, htell⟩ | ⟨-, g, htell, hkind⟩
      · rw [htell] at hf
        cases hf
      · rw [htell] at hf
        cases hf
        exact Failure.isTransient_eq_false (.inr hkind))
  have hdispatch := (d.dispatched_dispatch iteration call w).result_eq
  rw [show (d.attempt (d.trial call)).run w =
    (settings.retry.run retryable (d.trial call)).run w from rfl, hresult] at hdispatch
  refine ⟨?_, ?_, ?_⟩
  · rw [Outcome.requests, d.filterMap_dispatch (fun _ _ => rfl) fun _ _ => rfl]
    exact hrequests
  · rw [Outcome.sleeps, d.filterMap_dispatch (fun _ _ => rfl) fun _ _ => rfl]
    exact hsleeps
  · rcases htold with ⟨v, hcommit, htell⟩ | ⟨hcommit, f, htell, hkind⟩
    · obtain ⟨text, hencode⟩ := t.encode_shows limit (hcount v hcommit)
      rw [htell, reportOf, hencode] at hdispatch
      exact ⟨_, hdispatch, rfl, by simp [hcommit, report]⟩
    · have htells : isTold f = true := by simp [isTold, hkind]
      rw [htell, reportOf, if_pos htells] at hdispatch
      exact ⟨_, hdispatch, rfl, by simp [hcommit, report]⟩

end

/-- A call of a tool on commits, in the whole of its dialogue.  A request that is withheld is never
sent, and the call is reported on as a failure; if repository and hash are spelled as they should
be, an address is refused for its length alone.  A request that is not withheld is sent once at each
attempt.  If all the answers pass, the dialogue is given up with the failure of the last attempt.
Otherwise the first answer that does not pass is the last one, and the dialogue goes on with a
report, which is one of success exactly if that answer tells a commit. -/
theorem run_dispatch (t : CommitTool) (c : GitHubClient) (wire : Wire ω) (repository : Text)
    (limit : Int) (service : Service ω) (settings : DialogueSettings) (system user : Text)
    (w w₁ : ω) (iteration : { n : Nat // 1 ≤ n }) (call : ToolCall) (sha : String)
    (tool : call.tool = t.name)
    (given : Json.lookup (Text.ofString "sha") call.arguments = some (.text sha))
    (long : 4 ≤ sha.length)
    (comes : Comes (commitDialogue service (c.source wire.transport) repository limit settings)
      system (settings.maxIterations - 1) (.start user) w (.dispatching iteration call) w₁) :
    let d := commitDialogue service (c.source wire.transport) repository limit settings
    let whole := (d.run system user).run w
    let part := (d.dispatch iteration call).run w₁
    (∀ f, c.withheld? repository sha = some f →
      part.requests = [] ∧ part.sleeps = [] ∧
        ∃ r, whole.GoesOnWith part r ∧ r.origin = call.origin iteration ∧ r.ok = false) ∧
    (∀ name, repository = Text.ofString name → Release.isRepository name = true →
      (∀ c ∈ sha.toList, isHexDigit c = true) →
      ∀ p, Target.of (GitHubClient.address repository sha) = .error p →
        p = .tooLong ∨ p = .partTooLong "path") ∧
    ∀ target, c.obstacle? = none →
      Target.of (GitHubClient.address repository sha) = .ok target →
      let answer := wire.answer (c.request target) w₁
      (∀ i, (answer i).IsOfTransport) →
      ((∀ i < settings.retry.attempts.val, (answer i).passes = true) →
        part.requests = List.replicate settings.retry.attempts (c.request target) ∧
        part.sleeps = settings.retry.waits (settings.retry.attempts - 1) ∧
        ∃ message cause, whole.EndsWith part (.transient message cause) ∧
          GitHubClient.read target sha (answer (settings.retry.attempts - 1)) =
            .error (.transient message cause)) ∧
      ∀ k < settings.retry.attempts.val, (∀ i < k, (answer i).passes = true) →
        (answer k).passes = false →
        (∀ v, GitHubClient.commit? (answer k) = some v → v.IsCountable) →
        part.requests = List.replicate (k + 1) (c.request target) ∧
        part.sleeps = settings.retry.waits k ∧
        ∃ r, whole.GoesOnWith part r ∧ r.origin = call.origin iteration ∧
          (r.ok = true ↔ (GitHubClient.commit? (answer k)).isSome = true) := by
  intro d whole part
  refine ⟨?_, ?_, ?_⟩
  · intro f hwithheld
    obtain ⟨hrequests, hsleeps, r, hresult, horigin, hok⟩ :=
      dispatch_withheld wire tool given long hwithheld iteration w₁
    exact ⟨hrequests, hsleeps, r, comes.dispatch_ok hresult, horigin, hok⟩
  · rintro name rfl hrepository hsha p hp
    exact GitHubClient.of_address_error hrepository hsha hp
  · intro target hobstacle htarget answer htransport
    constructor
    · intro hpasses
      obtain ⟨hrequests, hsleeps, message, cause, hresult, hread⟩ :=
        dispatch_passing tool given long hobstacle htarget iteration w₁ htransport hpasses
      exact ⟨hrequests, hsleeps, message, cause, comes.dispatch_error hresult, hread⟩
    · intro k hk hpasses hanswer hcount
      obtain ⟨hrequests, hsleeps, r, hresult, horigin, hok⟩ :=
        dispatch_answered tool given long hobstacle htarget iteration w₁ htransport hk hpasses
          hanswer hcount
      exact ⟨hrequests, hsleeps, r, comes.dispatch_ok hresult, horigin, hok⟩

/-! ### A commit that is fetched at the second attempt -/

/-- A call for the diff of a commit. -/
def fetching (sha : String) : ToolCall :=
  ⟨"get_commit_diff", [(Text.ofString "sha", .text sha)]⟩

/-- A commit in an answer. -/
def told : WebAnswer := .response 200 [] "\x7b\"sha\": \"abcd\"\x7d"

/-- A dialogue whose model asks for the diff of a commit again and again. -/
def fetchingDialogue (sha : String) : Dialogue (Nat → WebAnswer) :=
  commitDialogue (fun _ _ => pure (.str (ToolCall.reply [] [(fetching sha, [])])))
    (GitHubClient.source ⟨"", 30.0⟩ Wire.scripted.transport) "owner/name" 100 .standard

theorem commit?_told :
    GitHubClient.commit? told = some ⟨"abcd", [], [], []⟩ := by decide +kernel

theorem fetching_plain : (fetching "abcd").Plain := by
  refine ⟨by decide, ?_, ?_, ?_⟩
  · show [Text.ofString "sha"].Nodup
    decide
  · simp [fetching]
  · simpa [fetching, Json.text] using Json.Plain.str _

theorem all_fetching :
    ToolCall.all (ToolCall.reply [] [(fetching "abcd", [])]) = .ok [fetching "abcd"] := by
  refine @ToolCall.all_reply [] [(fetching "abcd", [])] ?_ ?_ ?_ ?_
  · simpa using fetching_plain
  · have hwritten : Fence.Unmarked (fetching "abcd").written := by decide +kernel
    simpa using hwritten
  · exact Fence.unmarked_of_not_mem List.not_mem_nil
  · simpa using Fence.unmarked_of_not_mem List.not_mem_nil

theorem isOfTransport_response (status : Nat) (headers : List (String × String)) (body : String) :
    (WebAnswer.response status headers body).IsOfTransport := by
  intro kind message h
  cases h

/-- The first answer passes, and the second one tells the commit. -/
theorem run_dispatch_second :
    let d := fetchingDialogue "abcd"
    let script : Nat → WebAnswer := fun i => if i = 0 then .response 503 [] "" else told
    let request := GitHubClient.request ⟨"", 30.0⟩ ⟨"/repos/owner/name/commits/abcd", none⟩
    let part := (d.dispatch ⟨1, by decide⟩ (fetching "abcd")).run script
    Comes d "Write." (d.settings.maxIterations - 1) (.start "Go.") script
        (.dispatching ⟨1, by decide⟩ (fetching "abcd")) script ∧
      part.requests = [request, request] ∧ part.sleeps = d.settings.retry.waits 1 ∧
      ∃ r, ((d.run "Write." "Go.").run script).GoesOnWith part r ∧ r.ok = true := by
  intro d script request part
  have hclean : (ToolCall.reply [] [(fetching "abcd", [])]).hasByte = false := by decide +kernel
  have hheard : Heard d "Write." (.start "Go.") script
      ⟨.ok (_, [] ++ fetching "abcd" :: []), script, _⟩ :=
    .read rfl (replyTurn_text_iff.2 hclean) all_fetching
  have hcomes : Comes d "Write." (3 + 1) (.start "Go.") script
      (.dispatching ⟨1, by decide⟩ (fetching "abcd")) script := .dispatches hheard .none
  have htarget : Target.of (GitHubClient.address "owner/name" "abcd") =
      .ok ⟨"/repos/owner/name/commits/abcd", none⟩ := by decide +kernel
  have hscript : ∀ i, script i = .response 503 [] "" ∨ script i = told := by
    intro i
    by_cases hi : i = 0
    · exact .inl (if_pos hi)
    · exact .inr (if_neg hi)
  obtain ⟨-, -, hsent⟩ := run_dispatch .diff ⟨"", 30.0⟩ Wire.scripted "owner/name" 100 _ .standard
    "Write." "Go." script script _ (fetching "abcd") "abcd" rfl rfl (by decide) hcomes
  obtain ⟨-, hanswered⟩ := hsent _ rfl htarget fun i => by
    rw [Wire.answer_scripted]
    rcases hscript i with h | h
    · rw [h]
      exact isOfTransport_response _ _ _
    · rw [h]
      exact isOfTransport_response _ _ _
  simp only [Wire.answer_scripted] at hanswered
  obtain ⟨hrequests, hsleeps, r, hgoes, -, hok⟩ := hanswered 1 (by decide)
    (fun i hi => by
      obtain rfl : i = 0 := by omega
      rfl)
    rfl
    (fun v hv => by
      cases hv.symm.trans commit?_told
      exact ⟨by decide +kernel, by decide +kernel, by decide +kernel⟩)
  have hcommit : (GitHubClient.commit? (script 1)).isSome = true := by
    rw [show script 1 = told from rfl, commit?_told]
    rfl
  exact ⟨hcomes, hrequests, hsleeps, r, hgoes, hok.2 hcommit⟩

/-- A hash of seventy thousand hexadecimal digits: although every answer would tell a commit, no
request is sent, and the call is reported on as a failure. -/
theorem overlong_withheld :
    let sha := String.ofList (List.replicate 70000 'a')
    let script : Nat → WebAnswer := fun _ => told
    let part := ((fetchingDialogue sha).dispatch ⟨1, by decide⟩ (fetching sha)).run script
    (∀ c ∈ sha.toList, isHexDigit c = true) ∧ 4 ≤ sha.length ∧
      (∀ request i, (Wire.scripted.answer request script i).passes = false ∧
        (GitHubClient.commit? (Wire.scripted.answer request script i)).isSome = true) ∧
      part.requests = [] ∧ ∃ r, part.result = .ok r ∧ r.ok = false := by
  intro sha script part
  have hdigits : ∀ c ∈ sha.toList, isHexDigit c = true := by
    intro c hc
    rw [String.toList_ofList] at hc
    rw [List.eq_of_mem_replicate hc]
    decide
  have hlength : sha.length = 70000 := by
    rw [String.length_ofList, List.length_replicate]
  have haddress : Target.maxLength <
      (GitHubClient.address "owner/name" (Text.ofString sha)).length := by
    have htext : (Text.ofString sha).length = 70000 := by
      rw [Text.ofString, Text.ofChars, List.length_map, String.length_toList, hlength]
    rw [GitHubClient.address, List.length_append, htext, Target.maxLength]
    omega
  have hwithheld : GitHubClient.withheld? ⟨"", 30.0⟩ "owner/name" (Text.ofString sha) =
      some AddressProblem.tooLong.failure := by
    have hobstacle : GitHubClient.obstacle? ⟨"", 30.0⟩ = none := rfl
    rw [GitHubClient.withheld?, hobstacle, Target.of_eq_error_of_length haddress]
  obtain ⟨hrequests, -, r, hresult, -, hok⟩ : part.requests = [] ∧ part.sleeps = [] ∧
      ∃ r, part.result = .ok r ∧ r.origin = (fetching sha).origin 1 ∧ r.ok = false :=
    dispatch_withheld (t := .diff) Wire.scripted rfl rfl (by omega) hwithheld ⟨1, by decide⟩ script
  refine ⟨hdigits, by omega, fun request i => ?_, hrequests, r, hresult, hok⟩
  rw [Wire.answer_scripted]
  refine ⟨rfl, ?_⟩
  rw [commit?_told]
  rfl

end CommitTool

end ReleaseNotes
