/-
Calls that are written and found again.

A reply of prose and of blocks that each hold the text of one call has exactly these calls, in
order.  The prose may hold backticks, and they may touch a block, as long as no three of them follow
each other.

Main statements:
* `ToolCall.Plain`, `ToolCall.block`, `ToolCall.reply` — calls whose text is read back, and replies;
* `ToolCall.check_toJson` — the value of a call is checked to be that call;
* `ToolCall.ofBody_written` — the body of its block holds the call;
* `ToolCall.bodies_reply` — the blocks of a reply;
* `ToolCall.all_reply` — all calls of a reply are found.
-/
import ReleaseNotes.Proofs.Json.RoundTrip
import ReleaseNotes.Proofs.Tool.Blocks

namespace ReleaseNotes
namespace ToolCall

/-- The calls whose text is read back: they have a name, and arguments of their own names with
values of at most a hundred and fifty levels. -/
structure Plain (c : ToolCall) : Prop where
  named : c.tool ≠ ""
  distinct : (c.arguments.map Prod.fst).Nodup
  names : ∀ f ∈ c.arguments, ∃ s : String, f.1 = s
  values : ∀ f ∈ c.arguments, Json.Plain 150 f.2

/-- The text of a call. -/
def written (c : ToolCall) : Text := Json.indented .result c.toJson

/-- The block of a call. -/
def block (c : ToolCall) : Text := Fence.block (c.written ++ [.char '\n'])

/-- Prose, and blocks of calls with prose behind each. -/
def reply (prose : Text) (parts : List (ToolCall × Text)) : Text :=
  prose ++ parts.flatMap fun (c, behind) => c.block ++ behind

/-- The fields of the value of a call. -/
def fields (c : ToolCall) : Json.Fields :=
  [(Text.ofString "tool", .text c.tool), (Text.ofString "arguments", .obj c.arguments)]

theorem toJson_eq (c : ToolCall) : c.toJson = .obj c.fields := rfl

theorem Plain.toJson {c : ToolCall} (h : c.Plain) : Json.Plain 152 c.toJson := by
  have harguments : Json.Plain 151 (.obj c.arguments) := .obj h.distinct h.names h.values
  have hdistinct : [Text.ofString "tool", Text.ofString "arguments"].Nodup := by decide
  rw [toJson_eq]
  refine .obj hdistinct ?_ ?_
  · intro f hf
    simp only [fields, List.mem_cons, List.not_mem_nil, or_false] at hf
    rcases hf with rfl | rfl
    · exact ⟨"tool", rfl⟩
    · exact ⟨"arguments", rfl⟩
  · intro f hf
    simp only [fields, List.mem_cons, List.not_mem_nil, or_false] at hf
    rcases hf with rfl | rfl
    · exact .str c.tool
    · exact harguments

theorem check_toJson {c : ToolCall} (h : c.tool ≠ "") : check c.toJson = .ok c := by
  have hname : Check.stringOf 1 (.text c.tool) = .ok c.tool := by
    have hlength : ¬ c.tool.length < 1 := by
      intro hshort
      exact h (String.length_eq_zero_iff.1 (by omega))
    simp [Check.stringOf, Check.string, Json.text, Validated.andThen, hlength]
  have htool : Check.required c.fields "tool" (Check.stringOf 1) = .ok c.tool :=
    Check.required_eq_ok rfl hname
  have harguments : Check.optional c.fields "arguments" [] argumentsCheck = .ok c.arguments :=
    Check.optional_eq_ok (j := .obj c.arguments) rfl rfl
  show ((Check.required c.fields "tool" (Check.stringOf 1)).map ToolCall.mk).ap
    (Check.optional c.fields "arguments" [] argumentsCheck) = _
  rw [htool, harguments]
  rfl

theorem ofBody_written {c : ToolCall} (h : c.Plain) :
    ofBody (c.written ++ [.char '\n']) = .ok (some c) := by
  have hreads : Json.Reader.Reads Json.maxDepth c.written c.toJson :=
    Json.reads_indented (h.toJson.mono (by decide)) _ _
  have hdecode : Json.decode (c.written ++ [.char '\n']) = .ok c.toJson := by
    refine Json.decode_of_reads hreads ?_ ?_
    · intro hmark
      cases hmark
    · -- the line break before the closing mark is a blank
      intro u hu
      rw [List.mem_singleton.1 hu]
      rfl
  rw [ofBody, hdecode]
  dsimp only
  rw [check_toJson h.named]
  rfl

theorem bodies_reply {prose : Text} {parts : List (ToolCall × Text)} (hprose : Fence.Unmarked prose)
    (hwritten : ∀ p ∈ parts, Fence.Unmarked p.1.written)
    (hbehind : ∀ p ∈ parts, Fence.Unmarked p.2) :
    Fence.bodies (reply prose parts) = parts.map fun p => p.1.written ++ [.char '\n'] := by
  -- the prose behind a block is the prose before the next one
  induction parts generalizing prose with
  | nil =>
    rw [reply, List.flatMap_nil]
    exact Fence.bodies_append hprose (.inl rfl)
  | cons p parts ih =>
    have hsplit : reply prose (p :: parts) = prose ++ (p.1.block ++ reply p.2 parts) := by
      simp [reply]
    have hopens : Text.ofChars Fence.mark <+: p.1.block ++ reply p.2 parts := ⟨_, rfl⟩
    have hbody : Fence.Unmarked (p.1.written ++ [.char '\n']) :=
      (hwritten p List.mem_cons_self).concat (u := .char '\n') (by decide)
    have hlast : (p.1.written ++ [TextUnit.char '\n']).getLast? ≠ some (.char '\x60') := by
      rw [List.getLast?_concat]
      decide
    have hrest := ih (hbehind p List.mem_cons_self)
      (fun q hq => hwritten q (List.mem_cons_of_mem _ hq))
      fun q hq => hbehind q (List.mem_cons_of_mem _ hq)
    rw [hsplit, Fence.bodies_append hprose (.inr hopens), block,
      Fence.bodies_block_of_unmarked hbody hlast, hrest]
    rfl

theorem ofBodies_written {calls : List ToolCall} (h : ∀ c ∈ calls, c.Plain) :
    ofBodies (calls.map fun c => c.written ++ [.char '\n']) = (calls, none) := by
  induction calls with
  | nil => rfl
  | cons c calls ih =>
    have hrest := ih fun d hd => h d (List.mem_cons_of_mem _ hd)
    rw [List.map_cons, ofBodies, ofBody_written (h c List.mem_cons_self)]
    dsimp only
    rw [hrest]

/-- The calls of a reply are exactly those that were written, in order, whatever prose stands
before, between and behind them. -/
theorem all_reply {prose : Text} {parts : List (ToolCall × Text)} (hplain : ∀ p ∈ parts, p.1.Plain)
    (hwritten : ∀ p ∈ parts, Fence.Unmarked p.1.written) (hprose : Fence.Unmarked prose)
    (hbehind : ∀ p ∈ parts, Fence.Unmarked p.2) :
    all (reply prose parts) = .ok (parts.map Prod.fst) := by
  have hcalls : ∀ c ∈ parts.map Prod.fst, c.Plain := by
    intro c hc
    obtain ⟨p, hp, rfl⟩ := List.mem_map.1 hc
    exact hplain p hp
  have hbodies : Fence.bodies (reply prose parts) =
      (parts.map Prod.fst).map fun c => c.written ++ [.char '\n'] := by
    rw [bodies_reply hprose hwritten hbehind, List.map_map]
    rfl
  rw [all_eq_ok_iff, scan, hbodies]
  exact ofBodies_written hcalls

/-- A call with an escaped text, a sign, and values within values. -/
def searching : ToolCall where
  tool := "search"
  arguments := [(Text.ofString "text", .text "``\"\\\n𝄞"),
    (Text.ofString "within", .obj [(Text.ofString "", .arr [.int (-7), .null])])]

theorem searching_plain : searching.Plain := by
  have hdigits : (Numeral.digits (-7 : Int).natAbs).length ≤ Numeral.maxDigits := by decide +kernel
  have hitems : ∀ v ∈ [Json.int (-7), Json.null], Json.Plain 148 v := by
    simpa using ⟨.int hdigits, .null⟩
  have hwithin : Json.Plain 150 (.obj [(Text.ofString "", .arr [.int (-7), .null])]) :=
    .obj (by decide) (by simp) (by simpa using .arr hitems)
  refine ⟨by decide, ?_, ?_, ?_⟩
  · show [Text.ofString "text", Text.ofString "within"].Nodup
    decide
  · simp [searching]
  · simpa [searching] using ⟨.str _, hwithin⟩

/-- The backticks at the end of the prose touch the blocks behind it. -/
theorem all_reply_searching :
    searching.Plain ∧ Fence.Unmarked searching.written ∧ Fence.Unmarked "First ``" ∧
      Fence.Unmarked "then\n``" ∧
      all (reply "First ``" [(searching, "then\n``"), (searching, [])]) =
        .ok [searching, searching] := by
  have hwritten : Fence.Unmarked searching.written := by decide +kernel
  have hfirst : Fence.Unmarked "First ``" := by decide +kernel
  have hthen : Fence.Unmarked "then\n``" := by decide +kernel
  refine ⟨searching_plain, hwritten, hfirst, hthen, ?_⟩
  refine all_reply ?_ ?_ hfirst ?_
  · simpa using searching_plain
  · simpa using hwritten
  · simpa using ⟨hthen, Fence.unmarked_of_not_mem List.not_mem_nil⟩

end ToolCall
end ReleaseNotes
