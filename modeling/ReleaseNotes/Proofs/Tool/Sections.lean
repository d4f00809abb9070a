/-
Sections on tools.

The list of tools that the model is given has one section for each tool, in the order of the tools:
under the tool's name stands what it does and, if it has a signature, the arguments that it takes.
An empty line stands between two sections.  Blanks are cut off at the end of the list only, and
since a section begins with a mark that is no blank, it is at most the end of the last section that
they are missing from.

Main statements:
* `Tool.sectionText` — the section on a tool;
* `joinWith_concat` — texts with one more text behind them;
* `withoutBlanksAtEnd_append` — what is cut off the end of a text;
* `Registry.describe_eq` — the list of tools by its sections.
-/
import Mathlib.Data.List.DropRight
import Mathlib.Data.List.ModifyLast
import Mathlib.Tactic.Common
import ReleaseNotes.Tool.Registry

namespace ReleaseNotes

variable {ω : Type}

/-! ### Texts that are joined -/

namespace Text

theorem joinWith_concat (separator : Text) (ts : List Text) (t : Text) :
    joinWith separator (ts ++ [t]) = ts.flatMap (· ++ separator) ++ t := by
  induction ts with
  | nil => rfl
  | cons u ts ih =>
    obtain ⟨v, rest, hrest⟩ := List.exists_cons_of_ne_nil (List.concat_ne_nil t ts)
    rw [List.cons_append, List.flatMap_cons, hrest]
    show u ++ separator ++ joinWith separator (v :: rest) = _
    rw [← hrest, ih, List.append_assoc (u ++ separator)]

theorem prefix_joinWith_cons (separator t : Text) (ts : List Text) :
    t <+: joinWith separator (t :: ts) := by
  cases ts with
  | nil => exact List.prefix_rfl
  | cons u ts =>
    show t <+: t ++ separator ++ joinWith separator (u :: ts)
    rw [List.append_assoc]
    exact List.prefix_append _ _

/-- A text without the blanks at its end. -/
def withoutBlanksAtEnd (t : Text) : Text := t.rdropWhile fun u => u.passes isBlank

/-- Blanks are cut off the end of a text up to the last unit that is none. -/
theorem withoutBlanksAtEnd_append {a b : Text} (h : ∃ u ∈ b, u.passes isBlank = false) :
    withoutBlanksAtEnd (a ++ b) = a ++ withoutBlanksAtEnd b := by
  obtain ⟨u, hu, hblank⟩ := h
  have hkept : (b.reverse.dropWhile fun u => u.passes isBlank) ≠ [] := by
    rw [ne_eq, List.dropWhile_eq_nil_iff]
    intro hall
    rw [hall u (List.mem_reverse.2 hu)] at hblank
    cases hblank
  rw [withoutBlanksAtEnd, withoutBlanksAtEnd, List.rdropWhile, List.rdropWhile,
    List.reverse_append, List.dropWhile_append, if_neg (by simpa using hkept), List.reverse_append,
    List.reverse_reverse]

end Text

open Text

/-! ### Sections -/

namespace Tool

/-- The section on a tool: its name, what it does, and the arguments that it takes. -/
def sectionText (t : Tool ω) : Text :=
  let arguments : Text := t.signature.elim [] fun s =>
    "\n" ++ "Arguments schema: " ++ s.schema.compact .result
  "### " ++ t.name ++ "\n" ++ t.description ++ arguments

/-- A section begins with its mark. -/
theorem exists_sectionText_eq (t : Tool ω) : ∃ rest, t.sectionText = .char '#' :: rest :=
  ⟨_, rfl⟩

end Tool

namespace Registry

/-- The lines on a tool are those of its section, and an empty one. -/
theorem exists_toolLines_eq (t : Tool ω) : ∃ ls, toolLines t = ls ++ [[]] ∧
    ls.flatMap (· ++ ofString "\n") = t.sectionText ++ ofString "\n" := by
  refine ⟨_, rfl, ?_⟩
  unfold Tool.sectionText
  cases t.signature with
  | none => simp
  | some s => simp

theorem flatMap_toolLines (tools : List (Tool ω)) :
    (tools.flatMap toolLines).flatMap (· ++ ofString "\n") =
      tools.flatMap fun t => t.sectionText ++ ofString "\n\n" := by
  rw [List.flatMap_assoc]
  refine List.flatMap_congr fun t _ => ?_
  obtain ⟨ls, hlines, hsection⟩ := exists_toolLines_eq t
  have hbreaks : ofString "\n\n" = ofString "\n" ++ ofString "\n" := ofString_append "\n" "\n"
  rw [hlines, List.flatMap_append, hsection, hbreaks, List.append_assoc]
  rfl

/-- The lines on some tools, put together: their sections, and a line break at the end. -/
theorem joinWith_toolLines (earlier : List (Tool ω)) (t : Tool ω) :
    joinWith "\n" ((earlier ++ [t]).flatMap toolLines) =
      joinWith "\n\n" ((earlier ++ [t]).map Tool.sectionText) ++ ofString "\n" := by
  obtain ⟨ls, hlines, hsection⟩ := exists_toolLines_eq t
  have hsplit : (earlier ++ [t]).flatMap toolLines = (earlier.flatMap toolLines ++ ls) ++ [[]] := by
    rw [List.flatMap_append, List.flatMap_singleton, hlines, List.append_assoc]
  rw [hsplit, joinWith_concat, List.flatMap_append, flatMap_toolLines, hsection, List.append_nil,
    List.map_append, List.map_singleton, joinWith_concat, List.flatMap_map, List.append_assoc]

/-- Nothing is cut off in front of a mark. -/
theorem stripped_of_mark (t : Text) :
    stripped (.char '#' :: t) = withoutBlanksAtEnd (.char '#' :: t) := rfl

/-- What is cut off the sections is cut off the last one. -/
theorem stripped_sections (earlier : List (Tool ω)) (t : Tool ω) :
    stripped (joinWith "\n\n" ((earlier ++ [t]).map Tool.sectionText) ++ ofString "\n") =
      joinWith "\n\n" (earlier.map Tool.sectionText ++ [withoutBlanksAtEnd t.sectionText]) := by
  obtain ⟨first, rest, hfirst⟩ := List.exists_cons_of_ne_nil (List.concat_ne_nil t earlier)
  -- the sections begin with the mark of the first one
  obtain ⟨y, hy⟩ : ∃ y,
      joinWith "\n\n" ((earlier ++ [t]).map Tool.sectionText) = .char '#' :: y := by
    obtain ⟨x, hx⟩ := first.exists_sectionText_eq
    obtain ⟨y, hy⟩ := prefix_joinWith_cons "\n\n" first.sectionText (rest.map Tool.sectionText)
    rw [hfirst, List.map_cons, ← hy, hx]
    exact ⟨x ++ y, rfl⟩
  have hend : ∃ u ∈ t.sectionText, u.passes isBlank = false := by
    obtain ⟨x, hx⟩ := t.exists_sectionText_eq
    exact ⟨.char '#', hx ▸ List.mem_cons_self, rfl⟩
  calc stripped (joinWith "\n\n" ((earlier ++ [t]).map Tool.sectionText) ++ ofString "\n")
      = withoutBlanksAtEnd
          (joinWith "\n\n" ((earlier ++ [t]).map Tool.sectionText) ++ ofString "\n") := by
        rw [hy]
        exact stripped_of_mark _
    _ = withoutBlanksAtEnd (joinWith "\n\n" ((earlier ++ [t]).map Tool.sectionText)) :=
        List.rdropWhile_concat_pos _ _ _ rfl
    _ = withoutBlanksAtEnd ((earlier.map Tool.sectionText).flatMap (· ++ ofString "\n\n") ++
          t.sectionText) := by
        rw [List.map_append, List.map_singleton, joinWith_concat]
    _ = (earlier.map Tool.sectionText).flatMap (· ++ ofString "\n\n") ++
          withoutBlanksAtEnd t.sectionText := withoutBlanksAtEnd_append hend
    _ = joinWith "\n\n" (earlier.map Tool.sectionText ++ [withoutBlanksAtEnd t.sectionText]) :=
        (joinWith_concat _ _ _).symm

/-- The list of tools is made up of the sections on the tools, the last one without the blanks at its
end. -/
theorem describe_eq (r : Registry ω) : r.describe =
    joinWith "\n\n" ((r.tools.map Tool.sectionText).modifyLast withoutBlanksAtEnd) := by
  rcases List.eq_nil_or_concat r.tools with htools | ⟨earlier, t, htools⟩
  · rw [describe, htools]
    rfl
  · rw [List.concat_eq_append] at htools
    rw [describe, htools, joinWith_toolLines, stripped_sections, List.map_append,
      List.map_singleton, List.modifyLast_concat]

/-- Two tools, the last of which has nothing to tell. -/
example : (⟨[⟨"ping", "Answer at once", none, fun _ => Act.of (.ok (.data .null))⟩,
      ⟨"wait", [], none, fun _ => Act.of (.ok (.data .null))⟩],
      by simp [ofString_inj]⟩ : Registry Unit).describe =
    ofString "### ping\nAnswer at once\n\n### wait" := by
  rw [describe_eq]
  decide +kernel

end Registry
end ReleaseNotes
