/-
Releases, steps and changelogs that are written and read back.

The document of a release, of a step or of a changelog is read and checked to be that very value, in
either layout, with everything in its order: the commits, the reports and the names of their
arguments.

Main statements:
* `Json.ReadsBack` — a value is written, and what is written is checked to be the value;
* `Commit.plain_toJson`, `Release.plain_toJson`, `VersionStep.plain_toJson`,
  `ToolReport.plain_toJson`, `Changelog.plain_toJson` — the fields of a value can be written and
  read back;
* `Changelog.IsPlain` — the changelogs that are read back;
* `documents_read_back` — releases, steps and changelogs.
-/
import ReleaseNotes.Proofs.Server.Releases
import ReleaseNotes.Proofs.Tool.Written
import ReleaseNotes.Proofs.Validation.Rereading

namespace ReleaseNotes

variable {α : Type} {depth : Nat}

namespace Json

/-- A value is written as a document in a layout, and the document, with any blanks behind it, is
read and checked to be the value. -/
def ReadsBack (check : Check α) (layout : Layout) (j : Json) (a : α) : Prop :=
  ∃ document, j.documentIn layout = .ok document ∧
    ∀ w, Reader.Blanks w → ∃ read, decode (document ++ w) = .ok read ∧ check read = .ok a

theorem Plain.readsBack {check : Check α} {fields : List (String × Json)} {a : α}
    (h : Plain depth (.record fields)) (hdepth : depth ≤ maxDepth)
    (hcheck : check (.record fields) = .ok a) (layout : Layout) :
    ReadsBack check layout (.record fields) a := by
  have hplain : Plain maxDepth (.record fields) := h.mono hdepth
  refine ⟨_, hplain.documentIn_eq layout, ?_⟩
  intro w hw
  exact ⟨_, hplain.decode_text layout hw, hcheck⟩

theorem plain_str {t : Text} (h : t.IsEncodable) : Plain depth (.str t) := by
  obtain ⟨cs, hcs⟩ := Option.isSome_iff_exists.1 (Text.isEncodable_iff_toChars?.1 h)
  have ht : t = Text.ofString (String.ofList cs) := by
    rw [Text.eq_map_char_of_toChars? hcs, Text.ofString, String.toList_ofList, Text.ofChars]
  rw [ht]
  exact .str _

theorem plain_nullable {t? : Option Text} (h : ∀ t, t? = some t → t.IsEncodable) :
    Plain depth (t?.elim .null .str) := by
  cases t? with
  | none => exact .null
  | some t => exact plain_str (h t rfl)

theorem plain_map {toJson : α → Json} {l : List α} (h : ∀ a ∈ l, Plain depth (toJson a)) :
    Plain (depth + 1) (.arr (l.map toJson)) := by
  refine .arr ?_
  intro v hv
  obtain ⟨a, ha, rfl⟩ := List.mem_map.1 hv
  exact h a ha

end Json

/-! ### Releases and steps -/

theorem Commit.plain_toJson {c : Commit} (h : ∀ t ∈ c.toJson.texts, t.IsEncodable) :
    Json.Plain (depth + 1) c.toJson := by
  simp only [texts_toJson, List.forall_mem_cons] at h
  obtain ⟨-, hsubject, hbody, hauthor, hcategory, -⟩ := h
  refine .record (by simp) ?_
  simp only [List.forall_mem_cons]
  exact ⟨.str _, Json.plain_str hsubject, Json.plain_str hbody, Json.plain_str hauthor,
    Json.plain_str hcategory, .bool _, List.forall_mem_nil _⟩

theorem Release.plain_toJson {r : Release} (h : ∀ t ∈ r.toJson.texts, t.IsEncodable) :
    Json.Plain (depth + 3) r.toJson := by
  obtain ⟨hprevious, hcommits⟩ := isEncodable_texts h
  have hkind : Json.Plain (depth + 2) (r.kind.elim .null fun k => .text k.word) := by
    cases r.kind with
    | none => exact .null
    | some k => exact .str k.word
  refine .record (by simp) ?_
  simp only [List.forall_mem_cons]
  exact ⟨.str _, Json.plain_nullable hprevious, hkind,
    Json.plain_map fun c hc => Commit.plain_toJson (hcommits c hc), .str _, List.forall_mem_nil _⟩

/-- The versions of a step can be read, so that their units are characters. -/
theorem VersionStep.plain_toJson (step : VersionStep) : Json.Plain (depth + 1) step.toJson := by
  have htexts : ∀ t ∈ step.toJson.texts, t.IsEncodable := fun t ht =>
    Text.isEncodable_iff_fault?.2 (Server.fault?_of_mem_texts step ht)
  have hprevious : ∀ t, step.previous = some t → t.IsEncodable := by
    intro t ht
    refine htexts t ?_
    simp [toJson, ht, Json.record, Json.texts, Json.textsOfFields]
  have hcurrent : step.current.IsEncodable := by
    refine htexts _ ?_
    simp [toJson, Json.record, Json.texts, Json.textsOfFields]
  refine .record (by simp) ?_
  simp only [List.forall_mem_cons]
  exact ⟨Json.plain_nullable hprevious, Json.plain_str hcurrent, .str _, List.forall_mem_nil _⟩

theorem VersionStep.presentable_toJson (step : VersionStep) :
    step.toJson.presentable = step.toJson := by
  have hplain : Json.Plain 1 step.toJson := step.plain_toJson
  exact hplain.presentable_eq

theorem VersionStep.document_toJson (step : VersionStep) :
    step.toJson.document = .ok (step.toJson.indented .document) := by
  have hplain : Json.Plain 1 step.toJson := step.plain_toJson
  exact hplain.documentIn_eq .indented

theorem VersionStep.readsBack (step : VersionStep) (layout : Json.Layout) :
    Json.ReadsBack check layout step.toJson step := by
  have hplain : Json.Plain 1 step.toJson := step.plain_toJson
  exact hplain.readsBack (by decide) step.check_toJson layout

/-! ### Changelogs -/

/-- The changelogs that are read back: their texts can be encoded, the values among the arguments
of a call are of at most a hundred and fifty levels and have no floats, and their integers are
short. -/
structure Changelog.IsPlain (c : Changelog) : Prop where
  texts : ∀ t ∈ c.toJson.texts, t.IsEncodable
  arguments : ∀ e ∈ c.reports, Json.Plain 151 (.obj e.arguments)
  short : c.toJson.isWritable = true

theorem ToolReport.plain_toJson {r : ToolReport} (htool : r.tool.IsEncodable)
    (houtput : r.output.IsEncodable) (harguments : Json.Plain depth (.obj r.arguments))
    (hshort : r.toJson.isWritable = true) : Json.Plain (depth + 1) r.toJson := by
  have hiteration : (Numeral.digits r.iteration.val).length ≤ Numeral.maxDigits := by
    simp only [toJson, Json.record, List.map_cons, Json.isWritable, Json.fieldsAreWritable,
      Json.nat, Bool.and_eq_true, decide_eq_true_eq] at hshort
    exact hshort.1
  refine .record (by simp) ?_
  simp only [List.forall_mem_cons]
  exact ⟨.int hiteration, Json.plain_str htool, harguments, .bool _, Json.plain_str houtput,
    List.forall_mem_nil _⟩

theorem Changelog.plain_toJson {c : Changelog} (h : c.IsPlain) : Json.Plain 154 c.toJson := by
  obtain ⟨htext, hreports⟩ := isEncodable_texts h.texts
  have hshort := h.short
  simp only [toJson, Json.record, List.map_cons, Json.isWritable, Json.fieldsAreWritable,
    Bool.and_eq_true, decide_eq_true_eq, Json.areWritable_iff] at hshort
  obtain ⟨-, -, -, hiterations, hwritable, -⟩ := hshort
  have hreport : ∀ e ∈ c.reports, Json.Plain 152 e.toJson := by
    intro e he
    exact ToolReport.plain_toJson (hreports e he).1 (hreports e he).2 (h.arguments e he)
      (hwritable _ (List.mem_map_of_mem he))
  refine .record (by simp) ?_
  simp only [List.forall_mem_cons]
  exact ⟨c.version.plain_toJson, Json.plain_str htext, .bool _, .int hiterations,
    Json.plain_map hreport, List.forall_mem_nil _⟩

/-! ### All of them -/

/-- What is written is read back as the same.  So it is with a release that passed its check and
whose texts can be encoded, with every step from one version to the next, and with a changelog
without floats, whose texts can be encoded and whose integers are short, in either layout of the
document and with everything in its order. -/
theorem documents_read_back (layout : Json.Layout) :
    (∀ (j : Json) (release : Release), Release.check j = .ok release →
      (∀ t ∈ release.toJson.texts, t.IsEncodable) →
      Json.ReadsBack Release.check layout release.toJson release) ∧
    (∀ step : VersionStep, Json.ReadsBack VersionStep.check layout step.toJson step) ∧
    ∀ changelog : Changelog, changelog.IsPlain →
      Json.ReadsBack Changelog.check layout changelog.toJson changelog := by
  refine ⟨?_, fun step => step.readsBack layout, ?_⟩
  · intro j release hcheck htexts
    have hplain : Json.Plain 3 release.toJson := Release.plain_toJson htexts
    exact hplain.readsBack (by decide) (Release.check_toJson hcheck htexts) layout
  · intro changelog hplain
    exact (Changelog.plain_toJson hplain).readsBack (by decide)
      (Changelog.check_toJson hplain.texts) layout

/-- A release with a version before it, and with characters that are escaped or beyond ASCII. -/
def Release.quoting : Release where
  repository := "octo/tool"
  previousVersion := some "v2.0.0-rc.1+5"
  kind := some .major
  commits := ⟨[⟨"a1", "say \"no\"\\\x00\n𝄞", "", "ada", "other", true⟩,
    ⟨"b2", "\u2028\x7f", "body", "bob", "fix", false⟩], by simp⟩
  language := "en"

/-- The step of that release. -/
def VersionStep.quoting : VersionStep :=
  ⟨some "v2.0.0-rc.1+5", "2.0.0", .major, by decide +kernel⟩

/-- A changelog of that step, with a report on a call whose arguments hold values within values. -/
def Changelog.quoting : Changelog where
  version := .quoting
  text := "- \"No\"\t𝄞"
  truncated := true
  iterations := 5
  reports := [⟨⟨4, by decide⟩, "search", ToolCall.searching.arguments, true, "[]\r\n"⟩]

theorem Changelog.quoting_isPlain : quoting.IsPlain where
  texts t ht := Text.isEncodable_iff_toChars?.2
    ((by decide +kernel : ∀ t ∈ quoting.toJson.texts, t.toChars?.isSome = true) t ht)
  arguments e he := by
    rw [List.mem_singleton.1 he]
    exact .obj ToolCall.searching_plain.distinct ToolCall.searching_plain.names
      ToolCall.searching_plain.values
  short := by decide +kernel

theorem documents_read_back_quoting :
    (∃ j, Release.check j = .ok .quoting) ∧
    Json.ReadsBack Release.check .line Release.quoting.toJson .quoting ∧
    Json.ReadsBack VersionStep.check .indented VersionStep.quoting.toJson .quoting ∧
    Changelog.quoting.IsPlain ∧
    Json.ReadsBack Changelog.check .indented Changelog.quoting.toJson .quoting := by
  have hcheck : Release.check Release.quoting.toJson = .ok .quoting := rfl
  have htexts : ∀ t ∈ Release.quoting.toJson.texts, t.toChars?.isSome = true := by decide +kernel
  obtain ⟨hrelease, -, -⟩ := documents_read_back .line
  obtain ⟨-, hstep, hchangelog⟩ := documents_read_back .indented
  refine ⟨⟨_, hcheck⟩, ?_, hstep _, Changelog.quoting_isPlain, ?_⟩
  · exact hrelease _ _ hcheck fun t ht => Text.isEncodable_iff_toChars?.2 (htexts t ht)
  · exact hchangelog _ Changelog.quoting_isPlain

end ReleaseNotes
