/-
Changelogs that can be encoded.

The texts of a changelog come from the model and from the failures of the tools: what the tools on
commits show is ASCII.  So a changelog can be encoded if the replies of the model, the arguments of
the calls in them, and the messages of failures can.

Main statements:
* `Outcome.IsClean` — what a dialogue hears can be encoded;
* `CommitTools.isEncodable_of_execute` — what the tools on commits show;
* `Changelog.IsEncodable` — the texts of a changelog;
* `Writer.isEncodable_of_isClean` — the changelog of a clean dialogue.
-/
import ReleaseNotes.Proofs.Dialogue.Exhaustion
import ReleaseNotes.Proofs.Json.Encodable
import ReleaseNotes.Proofs.Writer.Planning

namespace ReleaseNotes

open Dialogue

variable {ω α : Type} {d : Dialogue ω} {system : Text}

/-- All that a dialogue hears can be encoded: the replies of the model, the texts among the arguments
of the calls in them, and the messages of the failures of the model and of the tools. -/
structure Outcome.IsClean (o : Outcome ω α) : Prop where
  replies : ∀ reply ∈ o.replies, reply.IsEncodable
  arguments : ∀ reply ∈ o.replies, ∀ call ∈ (ToolCall.scan reply).1,
    ∀ t ∈ Json.textsOfFields call.arguments, t.IsEncodable
  answered : ∀ f, .answered (.error f) ∈ o.events → f.message.IsEncodable
  called : ∀ call f, .called call (.error f) ∈ o.events → f.message.IsEncodable

/-! ### Tools -/

/-- The tools on commits show values that are written in ASCII. -/
theorem CommitTools.isEncodable_of_execute {source : CommitSource ω} {repository : Text}
    {limit : Int} {name : Text} {given : Json} {w : ω} {v : ToolValue} {t : Text}
    (hv : (((registry source repository limit).execute name given).run w).result = .ok v)
    (ht : v.Stands t) : t.IsEncodable := by
  obtain ⟨f, -, heq⟩ | ⟨tool, htool, fields, heq⟩ :=
    (registry source repository limit).execute_eq name given
  · rw [heq] at hv
    cases hv
  · -- whichever tool is run, its value is an object made of a commit
    obtain ⟨g, hg, hrun⟩ : ∃ g : CommitDiff → Json, (∀ c, ∃ fields, g c = .obj fields) ∧
        tool.run fields = (fun c => .data (g c)) <$> source repository (hash fields) := by
      rcases List.mem_pair.1 htool with rfl | rfl
      · exact ⟨fun c => (shownDiff limit c).toJson, fun c => ⟨_, rfl⟩, rfl⟩
      · exact ⟨fun c => (Impact.ofDiff c).toJson, fun c => ⟨_, rfl⟩, rfl⟩
    rw [heq, (Registry.runTool_result tool fields w).1, hrun, Act.map_run] at hv
    cases hc : ((source repository (hash fields)).run w).result with
    | error f =>
      rw [hc] at hv
      cases hv
    | ok c =>
      rw [hc] at hv
      cases hv
      obtain ⟨shown, hshown⟩ := hg c
      have hstands : (ToolValue.data (g c)).Stands t := ht
      rw [hshown] at hstands
      cases hstands with
      | data other writable => exact Json.isEncodable_indented _

theorem Event.called_of_executed {events : List Event} {call : ToolCall}
    {result : Except Failure ToolValue}
    (h : .executed call result ∈ events.filterMap Event.toolStep?) :
    .called call result ∈ events := by
  obtain ⟨e, he, hstep⟩ := List.mem_filterMap.1 h
  cases e with
  | called call' result' =>
    cases hstep
    exact he
  | noticed n => cases n <;> cases hstep
  | _ => cases hstep

/-! ### Changelogs -/

/-- All texts of a changelog can be encoded. -/
def Changelog.IsEncodable (c : Changelog) : Prop := ∀ t ∈ c.toJson.texts, t.IsEncodable

theorem Changelog.texts_ofResult (step : VersionStep) (result : DialogueResult) :
    (ofResult step result).toJson.texts = step.toJson.texts ++
      result.text :: Json.textsOfItems (result.reports.map ToolReport.toJson) := by
  simp [toJson, ofResult, Json.record, Json.texts, Json.textsOfFields]

theorem mem_origins {replies : List Text} {first : Nat} {origin : Nat × Text × Json.Fields}
    (h : origin ∈ origins replies first) :
    ∃ reply ∈ replies, ∃ call ∈ (ToolCall.scan reply).1, ∃ i, origin = call.origin i := by
  obtain ⟨⟨reply, i⟩, hreply, hcall⟩ := List.mem_flatMap.1 h
  have hmem : reply ∈ replies.dropLast := List.fst_mem_of_mem_zipIdx hreply
  obtain ⟨call, hcall, heq⟩ : ∃ call ∈ (ToolCall.scan reply).1, call.origin i = origin :=
    List.mem_map.1 hcall
  exact ⟨reply, List.dropLast_subset replies hmem, call, hcall, i, heq.symm⟩

theorem exists_of_forall₂ {β : Type} {R : α → β → Prop} {l : List α} {l' : List β}
    (h : List.Forall₂ R l l') {b : β} (hb : b ∈ l') : ∃ a ∈ l, R a b := by
  induction h with
  | nil => cases hb
  | cons hab _ ih =>
    rcases List.mem_cons.1 hb with rfl | hb
    · exact ⟨_, List.mem_cons_self, hab⟩
    · obtain ⟨a, ha, hr⟩ := ih hb
      exact ⟨a, List.mem_cons_of_mem _ ha, hr⟩

namespace Writer

/-- The texts of a report can be encoded: its tool and its arguments are those of a call in a reply,
and its output is the value of a tool or tells a failure. -/
theorem isEncodable_of_report {w : Writer ω} {r : Release} {system user : Text} {world : ω}
    {result : DialogueResult}
    (hresult : (((w.dialogue r).run system user).run world).result = .ok result)
    (hclean : (((w.dialogue r).run system user).run world).IsClean) {e : ToolReport}
    (he : e ∈ result.reports) : ∀ t ∈ e.toJson.texts, t.IsEncodable := by
  have hreported := (w.dialogue r).run_reports system user world hresult
  have htexts : e.toJson.texts = e.tool :: (Json.textsOfFields e.arguments ++ [e.output]) := by
    simp [ToolReport.toJson, Json.record, Json.texts, Json.textsOfFields, Json.nat]
  -- the call of the report
  have horigin : e.origin ∈ origins (((w.dialogue r).run system user).run world).replies 1 := by
    rw [← hreported.origins_eq]
    exact List.mem_map_of_mem he
  obtain ⟨reply, hreply, call, hcall, i, hof⟩ := mem_origins horigin
  have htool : e.tool = Text.ofString call.tool := congrArg (·.2.1) hof
  have harguments : e.arguments = call.arguments := congrArg (·.2.2) hof
  -- what was done with the tools for its sake
  obtain ⟨blocks, hsteps, hblocks⟩ := hreported.settled
  obtain ⟨block, hblock, hsettles⟩ := exists_of_forall₂ hblocks he
  have hcalled : ∀ {call : ToolCall} {result : Except Failure ToolValue},
      .executed call result ∈ block →
      .called call result ∈ (((w.dialogue r).run system user).run world).events := by
    intro call result hmem
    refine Event.called_of_executed ?_
    show _ ∈ Outcome.toolSteps _
    rw [hsteps]
    exact List.mem_flatten.2 ⟨block, hblock, hmem⟩
  obtain ⟨calls, hcalls⟩ := ((w.dialogue r).course_run system user world).exists_blamesLast
  have houtput : e.output.IsEncodable := by
    cases hsettles with
    | @returned iteration call failures v t few transient stands read =>
      obtain ⟨w', hw'⟩ := hcalls.accounts.real_of_called
        (hcalled (List.mem_append_right _ (List.mem_singleton_self _)))
      exact CommitTools.isEncodable_of_execute hw' stands
    | @failed iteration call failures f few transient kind =>
      have hmessage := hclean.called call f
        (hcalled (List.mem_append_right _ (List.mem_singleton_self _)))
      simp only [Text.isEncodable_append]
      exact ⟨⟨⟨Text.isEncodable_ofString _, Text.isEncodable_ofString _⟩,
        Text.isEncodable_ofString _⟩, hmessage⟩
  intro t ht
  rw [htexts, List.mem_cons, List.mem_append, List.mem_singleton] at ht
  rcases ht with rfl | ht | rfl
  · rw [htool]
    exact Text.isEncodable_ofString _
  · rw [harguments] at ht
    exact hclean.arguments reply hreply call hcall t ht
  · exact houtput

/-- The changelog of a clean dialogue can be encoded. -/
theorem isEncodable_of_isClean {w : Writer ω} {r : Release} {step : VersionStep} {world : ω}
    {result : DialogueResult} (hresult : ((w.talk r step).run world).result = .ok result)
    (hclean : ((w.talk r step).run world).IsClean) :
    (Changelog.ofResult step result).IsEncodable := by
  have hreports : ∀ {reports : List ToolReport} {t : Text},
      t ∈ Json.textsOfItems (reports.map ToolReport.toJson) →
      ∃ e ∈ reports, t ∈ e.toJson.texts := by
    intro reports t ht
    induction reports with
    | nil => cases ht
    | cons e rest ih =>
      rcases List.mem_append.1 ht with ht | ht
      · exact ⟨e, List.mem_cons_self, ht⟩
      · obtain ⟨e', he', ht⟩ := ih ht
        exact ⟨e', List.mem_cons_of_mem _ he', ht⟩
  obtain ⟨earlier, hreplies, -⟩ :=
    ((w.dialogue r).course_run _ _ world).replies_of_ok hresult
  intro t ht
  rw [Changelog.texts_ofResult, List.mem_append, List.mem_cons] at ht
  rcases ht with ht | rfl | ht
  · exact Text.isEncodable_iff_fault?.2 (Server.fault?_of_mem_texts step ht)
  · -- the text of a result is the last reply
    refine hclean.replies _ ?_
    show _ ∈ Outcome.replies _
    rw [talk, hreplies]
    exact List.mem_append_right _ (List.mem_singleton_self _)
  · obtain ⟨e, he, ht⟩ := hreports ht
    exact isEncodable_of_report hresult hclean he t ht

end Writer
end ReleaseNotes
