/-
The scan of a text.

The scan goes over the blocks of all places where one stands, in order.  A text in whole lines and a
text that opens a block have nothing to do with each other: what the first one leaves open ends
before the second one, for its last line break is neither in a mark nor in the first line of a block
that goes on behind it.

Main statements:
* `ToolCall.scan_places` — the blocks that a scan goes over, and the calls that it finds in them;
* `Fence.Whole` — texts in whole lines;
* `Fence.bodyAt?_append` — the block at a place of such a text, whatever block comes behind it;
* `Fence.bodies_append_of_whole`, `ToolCall.scan_append` — scans one after another.
-/
import ReleaseNotes.Proofs.Tool.Blocks

namespace ReleaseNotes

open Directive (Spells)

/-! ### Blocks and their calls -/

/-- What a scan goes over, and what it finds.  Its blocks are those of all places of the text where
one stands, in order.  It finds the calls of the blocks before the first one that overruns a limit
of the reader, and fails as that one does; so it finds the calls of all blocks exactly if there is
none such. -/
theorem ToolCall.scan_places (t : Text) :
    Fence.bodies t = (List.range t.length).filterMap (fun place => Fence.bodyAt? (t.drop place)) ∧
      (∀ place body, Fence.bodyAt? (t.drop place) = some body ↔
        ∃ rest, Fence.IsBlock (t.drop place) body rest) ∧
      scan t =
        (((Fence.bodies t).takeWhile fun body => (Fence.overrun? body).isNone).filterMap ofBlock?,
          ((Fence.bodies t).findSome? Fence.overrun?).map .json) ∧
      (scan t = ((Fence.bodies t).filterMap ofBlock?, none) ↔
        ∀ body ∈ Fence.bodies t, Fence.overrun? body = none) :=
  ⟨Fence.bodies_eq t, fun _ _ => Fence.bodyAt?_eq_some_iff, ofBodies_eq _, ofBodies_eq_iff _⟩

/-- A text with two calls, and a numeral of one digit too many in the block between them. -/
def interrupted : Text :=
  Fence.block "\x7b\"tool\": \"a\"\x7d\n" ++
    (Fence.block (Json.ones 4301) ++ Fence.block "\x7b\"tool\": \"b\"\x7d\n")

/-- The second call of the text is lost. -/
theorem ToolCall.scan_interrupted :
    ((Fence.bodies interrupted).filterMap ofBlock?).map tool = ["a", "b"] ∧
      (scan interrupted).1.map tool = ["a"] ∧
      (scan interrupted).2 = some (.json (.tooManyDigits 4301)) := by
  have hdecode : Json.decode (Json.ones 4301) = .error (.tooManyDigits 4301) :=
    Json.decode_ones (by decide)
  have hoverrun : Fence.overrun? (Json.ones 4301) = some (.tooManyDigits 4301) := by
    rw [Fence.overrun?, hdecode]
  have hcall : ofBlock? (Json.ones 4301) = none := by rw [ofBlock?, hdecode]
  have hnoMark : ∀ u ∈ Json.ones 4301, u.passes (sameLetter '\x60') = false := by
    intro u hu
    rw [Json.ones, List.mem_append, List.mem_replicate, List.mem_singleton] at hu
    rcases hu with ⟨-, rfl⟩ | rfl <;> decide
  have hlast : Fence.bodies (Fence.block "\x7b\"tool\": \"b\"\x7d\n") =
      [Text.ofString "\x7b\"tool\": \"b\"\x7d\n"] := by decide +kernel
  have hbodies : Fence.bodies interrupted = [Text.ofString "\x7b\"tool\": \"a\"\x7d\n",
      Json.ones 4301, Text.ofString "\x7b\"tool\": \"b\"\x7d\n"] := by
    rw [interrupted, Fence.bodies_block (by decide +kernel), Fence.bodies_block hnoMark, hlast]
  have hfirst : Fence.overrun? (Text.ofString "\x7b\"tool\": \"a\"\x7d\n") = none := by
    decide +kernel
  rw [scan, ofBodies_eq, hbodies]
  refine ⟨?_, ?_, ?_⟩
  · simp only [List.filterMap_cons, hcall]
    decide +kernel
  · rw [List.takeWhile_cons_of_pos (by rw [hfirst]; rfl),
      List.takeWhile_cons_of_neg (by rw [hoverrun]; decide)]
    decide +kernel
  · rw [List.findSome?_cons, hfirst, List.findSome?_cons, hoverrun]
    rfl

/-! ### Texts in whole lines -/

namespace Fence

/-- The last line of a text has its line break. -/
def Whole (t : Text) : Prop := ∀ u ∈ t.getLast?, u = .char '\n'

instance (t : Text) : Decidable (Whole t) := inferInstanceAs (Decidable (∀ u ∈ t.getLast?, _))

theorem Whole.of_append {s t : Text} (h : Whole (s ++ t)) : Whole t := by
  intro u hu
  exact h u (by rw [List.getLast?_append, Option.mem_def.1 hu]; rfl)

theorem Whole.mem {t : Text} (h : Whole t) (hne : t ≠ []) : .char '\n' ∈ t := by
  have hlast : t.getLast? = some (t.getLast hne) := List.getLast?_eq_some_getLast hne
  rw [← h _ hlast]
  exact List.getLast_mem hne

section

variable {s t : Text}

/-- A piece without a line break at the front of two texts lies in the first one, if that is in
whole lines. -/
theorem Whole.peel {piece behind : Text} (hs : Whole s) (hne : s ≠ [])
    (hpiece : .char '\n' ∉ piece) (heq : s ++ t = piece ++ behind) :
    ∃ rest, s = piece ++ rest ∧ behind = rest ++ t ∧ rest ≠ [] ∧ Whole rest := by
  rcases List.append_eq_append_iff.1 heq with ⟨more, rfl, -⟩ | ⟨rest, rfl, hbehind⟩
  · -- the line break at the end of the first text would be in the piece
    exact absurd (List.mem_append_left more (hs.mem hne)) hpiece
  · refine ⟨rest, rfl, hbehind, ?_, hs.of_append⟩
    rintro rfl
    rw [List.append_nil] at hs hne
    exact hpiece (hs.mem hne)

theorem Whole.peel_line {line behind : Text} (hs : Whole s) (hne : s ≠ [])
    (hline : IsLineBreak line) (heq : s ++ t = line ++ behind) :
    ∃ rest, s = line ++ rest ∧ behind = rest ++ t ∧ Whole rest := by
  have hnewline : ∀ {s : Text}, Whole s → s ≠ [] → s ++ t = .char '\n' :: behind →
      ∃ rest, s = .char '\n' :: rest ∧ behind = rest ++ t ∧ Whole rest := by
    intro s hs hne heq
    obtain ⟨u, rest, rfl⟩ := List.exists_cons_of_ne_nil hne
    obtain ⟨rfl, hbehind⟩ := List.cons_eq_cons.1 heq
    exact ⟨rest, rfl, hbehind.symm, Whole.of_append (s := [.char '\n']) hs⟩
  rcases hline with rfl | rfl
  · exact hnewline hs hne heq
  · have hreturn : s ++ t = [.char '\r'] ++ .char '\n' :: behind := heq
    obtain ⟨rest, rfl, hbehind, hrest, hwhole⟩ := hs.peel hne (by decide) hreturn
    obtain ⟨rest', rfl, rfl, hwhole'⟩ := hnewline hwhole hrest hbehind.symm
    exact ⟨rest', rfl, rfl, hwhole'⟩

/-- Where a line ends in a text in whole lines, it ends whatever comes behind the text, and the
other way round. -/
theorem Whole.endsLine_append_iff (hs : Whole s) (hne : s ≠ []) :
    EndsLine (s ++ t) ↔ EndsLine s := by
  constructor
  · rintro ⟨filling, rest, heq, hfilling, hrest⟩
    obtain ⟨rest', rfl, rfl, hne', hwhole⟩ :=
      hs.peel hne (not_mem_of_filling hfilling (by decide)) heq
    refine ⟨filling, rest', rfl, hfilling, .inr ?_⟩
    rcases hrest with hnil | ⟨line, more, hline, hbreak⟩
    · exact absurd (List.append_eq_nil_iff.1 hnil).1 hne'
    · obtain ⟨more', rfl, -⟩ := hwhole.peel_line hne' hbreak hline
      exact ⟨line, more', rfl, hbreak⟩
  · rintro ⟨filling, rest, rfl, hfilling, rfl | ⟨line, more, rfl, hbreak⟩⟩
    · rw [List.append_nil] at hs hne
      exact absurd (hs.mem hne) (not_mem_of_filling hfilling (by decide))
    · exact ⟨filling, line ++ (more ++ t), by simp, hfilling, .inr ⟨line, more ++ t, rfl, hbreak⟩⟩

/-- Whether a mark begins in a text does not depend on what stands behind a mark that follows. -/
theorem FreeOfMarks.of_mark {front rest : Text} (h : FreeOfMarks front (Text.ofChars mark ++ rest))
    (rest' : Text) : FreeOfMarks front (Text.ofChars mark ++ rest') := by
  intro before after heq
  rw [← List.append_assoc, ← List.append_assoc] at heq
  rcases List.append_eq_append_iff.1 heq with ⟨more, hbefore, -⟩ | ⟨more, hfront, -⟩
  · have hlength := congrArg List.length hbefore
    simp only [List.length_append] at hlength
    omega
  · -- a mark that ends before the one behind the front does
    refine h before (more ++ rest) ?_
    rw [← List.append_assoc, hfront, List.append_assoc, List.append_assoc]

theorem IsBlock.append {body rest : Text} (hs : Whole s) (h : IsBlock s body rest) :
    IsBlock (s ++ t) body (rest ++ t) := by
  obtain ⟨front, filling, line, rfl, hfront, hfilling, hline, hbody, hends⟩ := h
  have hclosing : Whole (Text.ofChars mark ++ rest) :=
    hs.of_append.of_append.of_append.of_append
  have hne : rest ≠ [] := by
    rintro rfl
    exact absurd hclosing (by decide)
  have hends' : EndsLine (rest ++ t) := (hclosing.of_append.endsLine_append_iff hne).2 hends
  exact ⟨front, filling, line, by simp only [List.append_assoc], hfront, hfilling, hline,
    hbody.of_mark _, hends'⟩

theorem IsBlock.of_append {body rest : Text} (hs : Whole s) (hne : s ≠ []) (ht : Opens t)
    (h : IsBlock (s ++ t) body rest) : ∃ rest', IsBlock s body rest' := by
  obtain ⟨front, filling, line, heq, hfront, hfilling, hline, hbody, hends⟩ := h
  obtain ⟨u, behind, htext, hu⟩ := ht
  obtain ⟨s₁, rfl, heq₁, hne₁, hs₁⟩ := hs.peel hne (hfront.not_mem (by decide)) heq
  obtain ⟨s₂, rfl, heq₂, hne₂, hs₂⟩ :=
    hs₁.peel hne₁ (not_mem_of_filling hfilling (by decide)) heq₁.symm
  obtain ⟨s₃, rfl, heq₃, hs₃⟩ := hs₂.peel_line hne₂ hline heq₂.symm
  -- the body ends at the mark that opens the second text, or before it
  have hle : body.length ≤ s₃.length := hbody s₃ (u :: behind) (by rw [heq₃, htext])
  obtain ⟨s₄, rfl⟩ : body <+: s₃ := by
    refine List.prefix_of_prefix_length_le ?_ (List.prefix_append s₃ t) hle
    rw [← heq₃]
    exact List.prefix_append body _
  have heq₄ : s₄ ++ t = Text.ofChars mark ++ rest := by
    rw [List.append_assoc] at heq₃
    exact (List.append_cancel_left heq₃).symm
  by_cases hne₄ : s₄ = []
  · -- the mark of the second text closes nothing, for its word goes on behind it
    rw [hne₄, List.nil_append, htext] at heq₄
    obtain rfl := List.append_cancel_left heq₄
    rw [(hends.head u rfl).2] at hu
    cases hu
  · obtain ⟨s₅, rfl, rfl, hne₅, hs₅⟩ := hs₃.of_append.peel hne₄ (by decide) heq₄
    exact ⟨s₅, front, filling, line, rfl, hfront, hfilling, hline, hbody.of_mark _,
      (hs₅.endsLine_append_iff hne₅).1 hends⟩

/-- The block at the front of a text in whole lines is the same one before a text that opens a
block. -/
theorem bodyAt?_append (hs : Whole s) (hne : s ≠ []) (ht : Opens t) :
    bodyAt? (s ++ t) = bodyAt? s := by
  ext body
  rw [bodyAt?_eq_some_iff, bodyAt?_eq_some_iff]
  constructor
  · rintro ⟨rest, h⟩
    exact h.of_append hs hne ht
  · rintro ⟨rest, h⟩
    exact ⟨rest ++ t, h.append hs⟩

theorem everyBody_append_of_whole (hs : Whole s) (ht : Opens t) :
    everyBody (s ++ t) = everyBody s ++ everyBody t := by
  induction s with
  | nil => rfl
  | cons u s ih =>
    have hfront : bodyAt? (u :: (s ++ t)) = bodyAt? (u :: s) :=
      bodyAt?_append hs (List.cons_ne_nil u s) ht
    rw [List.cons_append, everyBody_cons, hfront, everyBody_cons,
      ih (Whole.of_append (s := [u]) hs), List.append_assoc]

theorem bodies_append_of_whole (hs : Whole s) (ht : Opens t) :
    bodies (s ++ t) = bodies s ++ bodies t := by
  rw [bodies_eq, everyBody_append_of_whole hs ht, bodies_eq, bodies_eq]

end

theorem opens_of_spells {front : Text} (h : Spells opening front) (rest : Text) :
    Opens (front ++ rest) := by
  obtain ⟨u, son, rfl, hu, -⟩ := mark_of_spells h
  exact ⟨u, son ++ rest, by simp, hu⟩

end Fence

namespace ToolCall

/-- What is found in some blocks and then in others: the search ends if it fails in the first
ones. -/
theorem ofBodies_append (bodies bodies' : List Text) :
    ofBodies (bodies ++ bodies') =
      match ofBodies bodies with
      | (calls, none) => (calls ++ (ofBodies bodies').1, (ofBodies bodies').2)
      | (calls, some f) => (calls, some f) := by
  induction bodies with
  | nil => rfl
  | cons body rest ih =>
    rw [List.cons_append, ofBodies, ofBodies]
    cases hbody : ofBody body with
    | error f => rfl
    | ok call? =>
      cases call? with
      | none => exact ih
      | some call =>
        dsimp only
        rw [ih]
        rcases ofBodies rest with ⟨calls, _ | f⟩ <;> rfl

/-- A text in whole lines and a text that opens a block are scanned one after another, whatever the
first one leaves open: the blocks of both together are those of the first one and then those of the
second one, and so are the calls, if no block overruns a limit of the reader. -/
theorem scan_append {s t : Text} (hs : s = [] ∨ ∃ lines, s = lines ++ [.char '\n'])
    (ht : ∃ front rest, t = front ++ rest ∧ Spells Fence.opening front) :
    Fence.bodies (s ++ t) = Fence.bodies s ++ Fence.bodies t ∧
      ((∀ body ∈ Fence.bodies (s ++ t), Fence.overrun? body = none) →
        ∃ calls calls', scan s = (calls, none) ∧ scan t = (calls', none) ∧
          scan (s ++ t) = (calls ++ calls', none)) := by
  have hwhole : Fence.Whole s := by
    rcases hs with rfl | ⟨lines, rfl⟩
    · rintro u ⟨⟩
    · intro u hu
      rw [List.getLast?_concat, Option.mem_some_iff] at hu
      exact hu.symm
  have hopens : Fence.Opens t := by
    obtain ⟨front, rest, rfl, hfront⟩ := ht
    exact Fence.opens_of_spells hfront rest
  have hbodies := Fence.bodies_append_of_whole hwhole hopens
  refine ⟨hbodies, fun hall => ?_⟩
  rw [hbodies] at hall
  obtain ⟨halls, hallt⟩ := List.forall_mem_append.1 hall
  have hfirst := (ofBodies_eq_iff _).2 halls
  have hsecond := (ofBodies_eq_iff _).2 hallt
  refine ⟨_, _, hfirst, hsecond, ?_⟩
  rw [scan, hbodies, ofBodies_append, hfirst, hsecond]

/-- A text in whole lines that leaves a block open. -/
def leftOpen : Text := "```json\n\x7b\"tool\": \"a\"\x7d\n"

/-- A text that opens a block in capital letters and ends with it. -/
def inCapitals : Text := "```JSON\n\x7b\"tool\": \"b\"\x7d\n```"

/-- The block that is left open holds no call, and the block behind it is found. -/
theorem scan_leftOpen :
    Fence.bodies leftOpen = [] ∧
      Fence.bodies (leftOpen ++ inCapitals) = Fence.bodies inCapitals ∧
      ∃ calls, scan (leftOpen ++ inCapitals) = (calls, none) ∧ calls.map tool = ["b"] := by
  have hopening : Spells Fence.opening (Text.ofString "```JSON") := by
    unfold Spells
    decide
  have hfirst : Fence.bodies leftOpen = [] := by decide +kernel
  have hsecond : Fence.bodies inCapitals = [Text.ofString "\x7b\"tool\": \"b\"\x7d\n"] := by
    decide +kernel
  obtain ⟨hbodies, hcalls⟩ := scan_append (s := leftOpen) (t := inCapitals)
    (.inr ⟨Text.ofString "```json\n\x7b\"tool\": \"a\"\x7d", by decide⟩)
    ⟨_, "\n\x7b\"tool\": \"b\"\x7d\n```", by decide, hopening⟩
  rw [hfirst, List.nil_append] at hbodies
  refine ⟨hfirst, hbodies, ?_⟩
  rw [hbodies, hsecond] at hcalls
  obtain ⟨calls, calls', hscan, hscan', hboth⟩ := hcalls (by decide +kernel)
  refine ⟨_, hboth, ?_⟩
  have hnone : calls = [] := by
    rw [scan, hfirst] at hscan
    exact (congrArg Prod.fst hscan).symm
  have hone : calls'.map tool = ["b"] := by
    have hcall : (scan inCapitals).1.map tool = ["b"] := by decide +kernel
    rwa [hscan'] at hcall
  rw [hnone, List.nil_append, hone]

end ToolCall
end ReleaseNotes
