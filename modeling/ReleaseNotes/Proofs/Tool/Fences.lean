/-
Blocks in a text.

A block is told by its parts: a mark and a word that end their line, a body up to the next mark, and
that mark, which ends its line as well.  The search for blocks tries patterns, and behind each block
that it finds it goes on where that block ends.  No block begins within another one, so it finds the
block of every place where one stands.

Main statements:
* `Fence.IsBlock` — a block at the front of a text;
* `Fence.block?_eq_some_iff` — the patterns match exactly the blocks;
* `Fence.bodyAt?` — the body of the block at the front of a text;
* `Fence.bodies_eq` — the search finds the blocks of all places;
* `Fence.bodies_of_isBlock`, `Fence.bodies_cons_of_not_opens` — the same, from place to place.
-/
import ReleaseNotes.Proofs.Release.Directives
import ReleaseNotes.Tool.Call

namespace ReleaseNotes

open Directive (Spells afterWord?_eq_some_iff)

/-! ### Marks -/

namespace Fence

theorem eq_of_passes_mark {u : TextUnit} (h : u.passes (sameLetter '\x60') = true) :
    u = .char '\x60' :=
  eq_of_passes_sign (by decide) h

theorem spells_mark_iff {t : Text} : Spells mark t ↔ t = Text.ofChars mark := by
  constructor
  · intro h
    obtain ⟨u, _, hu, h₁, rfl⟩ := List.forall₂_cons_left_iff.1 h
    obtain ⟨v, _, hv, h₂, rfl⟩ := List.forall₂_cons_left_iff.1 h₁
    obtain ⟨w, _, hw, h₃, rfl⟩ := List.forall₂_cons_left_iff.1 h₂
    rw [List.forall₂_nil_left_iff.1 h₃, eq_of_passes_mark hu, eq_of_passes_mark hv,
      eq_of_passes_mark hw]
    rfl
  · rintro rfl
    exact .cons rfl (.cons rfl (.cons rfl .nil))

/-- What a block opens with is a mark and a letter behind it. -/
theorem mark_of_spells {front : Text} (h : Spells opening front) :
    ∃ u rest, front = Text.ofChars mark ++ u :: rest ∧ u.passes (sameLetter 'j') = true ∧
      Spells "son".toList rest := by
  obtain ⟨u₁, _, hu₁, h₁, rfl⟩ := List.forall₂_cons_left_iff.1 h
  obtain ⟨u₂, _, hu₂, h₂, rfl⟩ := List.forall₂_cons_left_iff.1 h₁
  obtain ⟨u₃, _, hu₃, h₃, rfl⟩ := List.forall₂_cons_left_iff.1 h₂
  obtain ⟨u, rest, hu, hrest, rfl⟩ := List.forall₂_cons_left_iff.1 h₃
  rw [eq_of_passes_mark hu₁, eq_of_passes_mark hu₂, eq_of_passes_mark hu₃]
  exact ⟨u, rest, rfl, hu, hrest⟩

/-! ### The parts of a block -/

/-- Fillers only. -/
def Filling (t : Text) : Prop := ∀ u ∈ t, u.passes isFiller = true

/-- The end of a line, in either of its forms. -/
def IsLineBreak (t : Text) : Prop := t = [.char '\n'] ∨ t = [.char '\r', .char '\n']

/-- Nothing but fillers stands before the end of the line, or of the text. -/
def EndsLine (t : Text) : Prop :=
  ∃ filling rest, t = filling ++ rest ∧ Filling filling ∧
    (rest = [] ∨ ∃ line more, rest = line ++ more ∧ IsLineBreak line)

/-- No mark begins in the front of a text. -/
def FreeOfMarks (front behind : Text) : Prop :=
  ∀ before after, front ++ behind = before ++ (Text.ofChars mark ++ after) →
    front.length ≤ before.length

/-- A block at the front of a text: it opens with a mark and its word, which end their line; its
body goes up to the first mark behind that line; and this mark ends its line as well. -/
def IsBlock (t body rest : Text) : Prop :=
  ∃ front filling line, t = front ++ (filling ++ (line ++ (body ++ (Text.ofChars mark ++ rest)))) ∧
    Spells opening front ∧ Filling filling ∧ IsLineBreak line ∧
    FreeOfMarks body (Text.ofChars mark ++ rest) ∧ EndsLine rest

theorem mem_fillers {rest t : Text} :
    rest ∈ fillers t ↔ ∃ filling, t = filling ++ rest ∧ Filling filling := by
  simp [fillers, Pattern.takes_nothing_iff, Filling]

theorem mem_lineBreak {rest t : Text} :
    rest ∈ lineBreak t ↔ ∃ line, t = line ++ rest ∧ IsLineBreak line := by
  rw [lineBreak, Pattern.mem_followedBy]
  constructor
  · rintro ⟨s, hs, hrest⟩
    rw [Pattern.mem_char] at hrest
    rcases Pattern.mem_optional.1 hs with hs | rfl
    · rw [Pattern.mem_char.1 hs, hrest]
      exact ⟨_, rfl, .inr rfl⟩
    · rw [hrest]
      exact ⟨_, rfl, .inl rfl⟩
  · rintro ⟨line, rfl, rfl | rfl⟩
    · exact ⟨_, Pattern.mem_optional.2 (.inr rfl), Pattern.mem_char.2 rfl⟩
    · exact ⟨_, Pattern.mem_optional.2 (.inl (Pattern.mem_char.2 rfl)), Pattern.mem_char.2 rfl⟩

theorem mem_firstLine {start t : Text} : start ∈ firstLine t ↔
    ∃ front filling line, t = front ++ (filling ++ (line ++ start)) ∧ Spells opening front ∧
      Filling filling ∧ IsLineBreak line := by
  simp only [firstLine, Pattern.mem_followedBy, Pattern.mem_word, afterWord?_eq_some_iff,
    mem_fillers, mem_lineBreak]
  constructor
  · rintro ⟨_, ⟨front, hfront, rfl⟩, _, ⟨filling, rfl, hfilling⟩, line, rfl, hline⟩
    exact ⟨front, filling, line, rfl, hfront, hfilling, hline⟩
  · rintro ⟨front, filling, line, rfl, hfront, hfilling, hline⟩
    exact ⟨_, ⟨front, hfront, rfl⟩, _, ⟨filling, rfl, hfilling⟩, line, rfl, hline⟩

theorem mem_word_mark {rest t : Text} :
    rest ∈ Pattern.word mark t ↔ t = Text.ofChars mark ++ rest := by
  simp [afterWord?_eq_some_iff, spells_mark_iff]

theorem freeOfMarks_cons {u : TextUnit} {front behind : Text} :
    FreeOfMarks (u :: front) behind ↔
      (∀ after, u :: (front ++ behind) ≠ Text.ofChars mark ++ after) ∧
        FreeOfMarks front behind := by
  constructor
  · intro h
    refine ⟨fun after heq => ?_, fun before after heq => ?_⟩
    · have hlength := h [] after heq
      simp at hlength
    · have hlength := h (u :: before) after (by rw [List.cons_append, heq, List.cons_append])
      simpa using hlength
  · rintro ⟨hfirst, hrest⟩ before after heq
    cases before with
    | nil => exact absurd heq (hfirst after)
    | cons v before =>
      have hlength := hrest before after (List.cons_eq_cons.1 heq).2
      simpa using hlength

theorem mem_inside {stop start : Text} :
    stop ∈ inside start ↔ ∃ body, start = body ++ stop ∧ FreeOfMarks body stop := by
  have htakes : ∀ body, Pattern.Takes (Pattern.word mark).absent (fun _ => true) body stop ↔
      FreeOfMarks body stop := by
    intro body
    induction body with
    | nil => exact ⟨fun _ _ _ _ => Nat.zero_le _, fun _ => .nil⟩
    | cons u body ih =>
      have hplace : (∃ s, s ∈ (Pattern.word mark).absent (u :: (body ++ stop))) ↔
          ∀ after, u :: (body ++ stop) ≠ Text.ofChars mark ++ after := by
        simp [mem_word_mark, -Pattern.mem_word]
      rw [freeOfMarks_cons, ← hplace, ← ih]
      constructor
      · intro h
        cases h with
        | cons _ hplace htakes => exact ⟨hplace, htakes⟩
      · rintro ⟨hplace, htakes⟩
        exact .cons rfl hplace htakes
  simp only [inside, Pattern.mem_many, htakes]

theorem mem_closing {rest stop : Text} :
    rest ∈ closing stop ↔ stop = Text.ofChars mark ++ rest ∧ EndsLine rest := by
  have hends : ∀ t, (∃ s, s ∈ fillers.followedBy (lineBreak.orElse .atEnd) t) ↔ EndsLine t := by
    intro t
    simp only [Pattern.mem_followedBy, Pattern.mem_orElse, mem_fillers, mem_lineBreak,
      Pattern.mem_atEnd, EndsLine]
    constructor
    · rintro ⟨s, rest, ⟨filling, rfl, hfilling⟩, ⟨line, rfl, hline⟩ | ⟨rfl | rfl, rfl⟩⟩
      · exact ⟨filling, _, rfl, hfilling, .inr ⟨line, s, rfl, hline⟩⟩
      · exact ⟨filling, _, rfl, hfilling, .inl rfl⟩
      · exact ⟨filling, _, rfl, hfilling, .inr ⟨_, [], rfl, .inl rfl⟩⟩
    · rintro ⟨filling, rest, rfl, hfilling, rfl | ⟨line, more, rfl, hline⟩⟩
      · exact ⟨_, _, ⟨filling, rfl, hfilling⟩, .inr ⟨.inl rfl, rfl⟩⟩
      · exact ⟨more, _, ⟨filling, rfl, hfilling⟩, .inl ⟨line, rfl, hline⟩⟩
  rw [closing, Pattern.mem_followedBy]
  constructor
  · rintro ⟨s, hs, hrest⟩
    obtain ⟨hline, rfl⟩ := Pattern.mem_ahead.1 hrest
    exact ⟨mem_word_mark.1 hs, (hends rest).1 hline⟩
  · rintro ⟨hstop, hline⟩
    exact ⟨rest, mem_word_mark.2 hstop, Pattern.mem_ahead.2 ⟨(hends rest).2 hline, rfl⟩⟩

/-! ### Blocks -/

theorem IsLineBreak.not_filler {line : Text} (h : IsLineBreak line) (more : Text) :
    ∀ u ∈ (line ++ more).head?, u.passes isFiller = false := by
  rcases h with rfl | rfl
  · rintro u ⟨⟩
    rfl
  · rintro u ⟨⟩
    rfl

theorem eq_of_isLineBreak {line line' more more' : Text} (h : IsLineBreak line)
    (h' : IsLineBreak line') (heq : line ++ more = line' ++ more') : more = more' := by
  rcases h with rfl | rfl <;> rcases h' with rfl | rfl <;> cases heq <;> rfl

theorem eq_of_freeOfMarks {body body' rest rest' : Text}
    (h : FreeOfMarks body (Text.ofChars mark ++ rest))
    (h' : FreeOfMarks body' (Text.ofChars mark ++ rest'))
    (heq : body ++ (Text.ofChars mark ++ rest) = body' ++ (Text.ofChars mark ++ rest')) :
    body = body' ∧ rest = rest' := by
  have hlength : body.length = body'.length := Nat.le_antisymm (h _ _ heq) (h' _ _ heq.symm)
  obtain ⟨hbody, hrest⟩ := List.append_inj heq hlength
  exact ⟨hbody, List.append_cancel_left hrest⟩

/-- There is one block at the front of a text at most. -/
theorem IsBlock.unique {t body body' rest rest' : Text} (h : IsBlock t body rest)
    (h' : IsBlock t body' rest') : body = body' ∧ rest = rest' := by
  obtain ⟨front, filling, line, rfl, hfront, hfilling, hline, hbody, -⟩ := h
  obtain ⟨front', filling', line', heq, hfront', hfilling', hline', hbody', -⟩ := h'
  have hlength : front.length = front'.length := hfront.length_eq.symm.trans hfront'.length_eq
  have hbehind := (List.append_inj heq hlength).2
  have hlines := (Directive.eq_of_passing hfilling hfilling' (hline.not_filler _) (hline'.not_filler _)
    hbehind).2
  exact eq_of_freeOfMarks hbody hbody' (eq_of_isLineBreak hline hline' hlines)

theorem isBlock_of_block? {t body rest : Text} (h : block? t = some (body, rest)) :
    IsBlock t body rest := by
  obtain ⟨start, hstart, h⟩ := List.exists_of_findSome?_eq_some h
  obtain ⟨stop, hstop, h⟩ := List.exists_of_findSome?_eq_some h
  obtain ⟨rest', hrest, heq⟩ := Option.map_eq_some_iff.1 h
  obtain ⟨front, filling, line, rfl, hfront, hfilling, hline⟩ := mem_firstLine.1 hstart
  obtain ⟨body', rfl, hbody⟩ := mem_inside.1 hstop
  obtain ⟨rfl, hends⟩ := mem_closing.1 (List.mem_of_head? hrest)
  -- what the body takes of the text is what the mark behind it leaves
  rw [Pattern.taken_append] at heq
  cases heq
  exact ⟨front, filling, line, rfl, hfront, hfilling, hline, hbody, hends⟩

theorem IsBlock.block?_isSome {t body rest : Text} (h : IsBlock t body rest) :
    (block? t).isSome = true := by
  obtain ⟨front, filling, line, rfl, hfront, hfilling, hline, hbody, hends⟩ := h
  rw [block?, List.isSome_findSome?, List.any_eq_true]
  refine ⟨_, mem_firstLine.2 ⟨front, filling, line, rfl, hfront, hfilling, hline⟩, ?_⟩
  rw [List.isSome_findSome?, List.any_eq_true]
  refine ⟨_, mem_inside.2 ⟨body, rfl, hbody⟩, ?_⟩
  rw [Option.isSome_map, List.isSome_head?]
  exact List.ne_nil_of_mem (mem_closing.2 ⟨rfl, hends⟩)

/-- The patterns match exactly the blocks. -/
theorem block?_eq_some_iff {t body rest : Text} :
    block? t = some (body, rest) ↔ IsBlock t body rest := by
  refine ⟨isBlock_of_block?, fun h => ?_⟩
  obtain ⟨⟨body', rest'⟩, hblock⟩ := Option.isSome_iff_exists.1 h.block?_isSome
  obtain ⟨hbody, hrest⟩ := h.unique (isBlock_of_block? hblock)
  rw [hblock, hbody, hrest]

/-- The body of the block at the front of a text. -/
def bodyAt? (t : Text) : Option Text := (block? t).map Prod.fst

theorem bodyAt?_eq_some_iff {t body : Text} :
    bodyAt? t = some body ↔ ∃ rest, IsBlock t body rest := by
  simp [bodyAt?, Option.map_eq_some_iff, block?_eq_some_iff]

/-! ### Places without a block -/

/-- A mark stands at the front of a text, and a letter of the word behind it. -/
def Opens (t : Text) : Prop :=
  ∃ u rest, t = Text.ofChars mark ++ u :: rest ∧ u.passes (sameLetter 'j') = true

theorem IsBlock.opens {t body rest : Text} (h : IsBlock t body rest) : Opens t := by
  obtain ⟨front, filling, line, rfl, hfront, -⟩ := h
  obtain ⟨u, son, rfl, hu, -⟩ := mark_of_spells hfront
  exact ⟨u, _, List.append_assoc _ _ _, hu⟩

theorem bodyAt?_eq_none {t : Text} (h : ¬ Opens t) : bodyAt? t = none := by
  by_contra hsome
  obtain ⟨body, hbody⟩ := Option.ne_none_iff_exists'.1 hsome
  obtain ⟨rest, hblock⟩ := bodyAt?_eq_some_iff.1 hbody
  exact h hblock.opens

theorem not_opens_of_first {u : TextUnit} {t : Text} (hu : u ≠ .char '\x60') :
    ¬ Opens (u :: t) := by
  rintro ⟨v, rest, heq, -⟩
  exact hu (List.cons_eq_cons.1 heq).1

theorem not_opens_of_second {u v : TextUnit} {t : Text} (hv : v ≠ .char '\x60') :
    ¬ Opens (u :: v :: t) := by
  rintro ⟨w, rest, heq, -⟩
  exact hv (List.cons_eq_cons.1 (List.cons_eq_cons.1 heq).2).1

theorem not_opens_of_third {u v w : TextUnit} {t : Text} (hw : w ≠ .char '\x60') :
    ¬ Opens (u :: v :: w :: t) := by
  rintro ⟨x, rest, heq, -⟩
  exact hw (List.cons_eq_cons.1 (List.cons_eq_cons.1 (List.cons_eq_cons.1 heq).2).2).1

theorem not_mem_of_filling {c : Char} {filling : Text} (h : Filling filling)
    (hc : isFiller c = false) : .char c ∉ filling := by
  intro hu
  have hfiller : isFiller c = true := h _ hu
  rw [hc] at hfiller
  cases hfiller

theorem not_mem_of_isLineBreak {line : Text} (h : IsLineBreak line) : .char '\x60' ∉ line := by
  rcases h with rfl | rfl <;> decide

/-- What ends a line neither begins with a backtick nor goes on with a word. -/
theorem EndsLine.head {rest : Text} (h : EndsLine rest) :
    ∀ u ∈ rest.head?, u ≠ .char '\x60' ∧ u.passes (sameLetter 'j') = false := by
  obtain ⟨filling, behind, rfl, hfilling, hbehind⟩ := h
  cases filling with
  | nil =>
    rcases hbehind with rfl | ⟨line, more, rfl, rfl | rfl⟩
    · rintro u ⟨⟩
    · rintro u ⟨⟩
      exact ⟨by decide, rfl⟩
    · rintro u ⟨⟩
      exact ⟨by decide, rfl⟩
  | cons v filling =>
    rintro u ⟨⟩
    have hv := hfilling v List.mem_cons_self
    cases v with
    | half _ | byte _ => cases hv
    | char c =>
      have hc : c = ' ' ∨ c = '\t' := by simpa [TextUnit.passes, isFiller] using hv
      rcases hc with rfl | rfl
      · exact ⟨by decide, rfl⟩
      · exact ⟨by decide, rfl⟩

/-! ### All places -/

/-- The bodies of the blocks at all places of a text, in order. -/
def everyBody (t : Text) : List Text :=
  (List.range t.length).filterMap fun place => bodyAt? (t.drop place)

theorem everyBody_cons (u : TextUnit) (t : Text) :
    everyBody (u :: t) = (bodyAt? (u :: t)).toList ++ everyBody t := by
  rw [everyBody, List.length_cons, List.range_succ_eq_map, List.filterMap_cons, List.filterMap_map,
    everyBody]
  cases h : bodyAt? (u :: t) <;> simp [h]

theorem everyBody_cons_of_not_opens {u : TextUnit} {t : Text} (h : ¬ Opens (u :: t)) :
    everyBody (u :: t) = everyBody t := by
  rw [everyBody_cons, bodyAt?_eq_none h]
  rfl

theorem everyBody_append {s t : Text} (h : .char '\x60' ∉ s) :
    everyBody (s ++ t) = everyBody t := by
  induction s with
  | nil => rfl
  | cons u s ih =>
    have hne : u ≠ .char '\x60' := fun heq => h (heq ▸ List.mem_cons_self)
    have hu : ¬ Opens (u :: (s ++ t)) := not_opens_of_first hne
    rw [List.cons_append, everyBody_cons_of_not_opens hu]
    exact ih fun hmem => h (List.mem_cons_of_mem u hmem)

theorem everyBody_of_freeOfMarks {body t : Text} (h : FreeOfMarks body t) :
    everyBody (body ++ t) = everyBody t := by
  induction body with
  | nil => rfl
  | cons u body ih =>
    obtain ⟨hfirst, hrest⟩ := freeOfMarks_cons.1 h
    have hu : ¬ Opens (u :: (body ++ t)) := by
      rintro ⟨v, rest, heq, -⟩
      exact hfirst _ heq
    rw [List.cons_append, everyBody_cons_of_not_opens hu, ih hrest]

/-- No block begins with the mark that closes one. -/
theorem everyBody_mark {rest : Text} (h : EndsLine rest) :
    everyBody (Text.ofChars mark ++ rest) = everyBody rest := by
  have hmark : Text.ofChars mark ++ rest =
      .char '\x60' :: .char '\x60' :: .char '\x60' :: rest := rfl
  have hfirst : ¬ Opens (.char '\x60' :: .char '\x60' :: .char '\x60' :: rest) := by
    rintro ⟨v, behind, heq, hv⟩
    rw [← hmark] at heq
    obtain rfl : rest = v :: behind := List.append_cancel_left heq
    rw [(h.head v rfl).2] at hv
    cases hv
  have hsecond : ¬ Opens (.char '\x60' :: .char '\x60' :: rest) := by
    cases rest with
    | nil => rintro ⟨v, behind, heq, -⟩; cases heq
    | cons u rest => exact not_opens_of_third (h.head u rfl).1
  have hthird : ¬ Opens (.char '\x60' :: rest) := by
    cases rest with
    | nil => rintro ⟨v, behind, heq, -⟩; cases heq
    | cons u rest => exact not_opens_of_second (h.head u rfl).1
  rw [hmark, everyBody_cons_of_not_opens hfirst,
    everyBody_cons_of_not_opens hsecond,
    everyBody_cons_of_not_opens hthird]

/-- No block begins within another one. -/
theorem everyBody_of_isBlock {u : TextUnit} {t body rest : Text} (h : IsBlock (u :: t) body rest) :
    everyBody t = everyBody rest := by
  obtain ⟨front, filling, line, heq, hfront, hfilling, hline, hbody, hends⟩ := h
  obtain ⟨j, son, rfl, hj, hson⟩ := mark_of_spells hfront
  have hj' : j ≠ .char '\x60' := by
    rintro rfl
    exact absurd hj (by decide)
  have ht : t = .char '\x60' :: .char '\x60' :: j ::
      (son ++ (filling ++ (line ++ (body ++ (Text.ofChars mark ++ rest))))) := by
    rw [(List.cons_eq_cons.1 heq).2]
    simp [Text.ofChars, mark]
  have hword : .char '\x60' ∉ son := hson.not_mem (by decide)
  rw [ht, everyBody_cons_of_not_opens (not_opens_of_third hj'),
    everyBody_cons_of_not_opens (not_opens_of_second hj'),
    everyBody_cons_of_not_opens (not_opens_of_first hj'), everyBody_append hword,
    everyBody_append (not_mem_of_filling hfilling (by decide)),
    everyBody_append (not_mem_of_isLineBreak hline), everyBody_of_freeOfMarks hbody,
    everyBody_mark hends]

/-! ### The search -/

theorem IsBlock.rest_suffix {u : TextUnit} {t body rest : Text} (h : IsBlock (u :: t) body rest) :
    rest <:+ t := by
  obtain ⟨front, filling, line, heq, hfront, -⟩ := h
  obtain ⟨j, son, rfl, -⟩ := mark_of_spells hfront
  rw [(List.cons_eq_cons.1 heq).2]
  exact (List.suffix_append _ rest).trans <| (List.suffix_append body _).trans <|
    (List.suffix_append line _).trans <| (List.suffix_append filling _).trans <|
    List.suffix_append _ _

theorem bodiesFrom_eq (n : Nat) (t : Text) : bodiesFrom n t = everyBody (t.drop n) := by
  induction t generalizing n with
  | nil => cases n <;> rfl
  | cons u t ih =>
    cases n with
    | succ n => exact ih n
    | zero =>
      rw [bodiesFrom, List.drop_zero, everyBody_cons]
      cases h : block? (u :: t) with
      | none =>
        have hbody : bodyAt? (u :: t) = none := by rw [bodyAt?, h]; rfl
        rw [hbody]
        exact ih 0
      | some found =>
        obtain ⟨body, rest⟩ := found
        have hbody : bodyAt? (u :: t) = some body := by rw [bodyAt?, h]; rfl
        have hblock := block?_eq_some_iff.1 h
        -- the search goes on where the block ends, and no block begins before that
        obtain ⟨covered, hcovered⟩ := hblock.rest_suffix
        have hrest : t.drop (t.length - rest.length) = rest := by
          rw [← hcovered, List.length_append, Nat.add_sub_cancel, List.drop_left]
        rw [hbody, everyBody_of_isBlock hblock]
        dsimp only
        rw [ih, hrest]
        rfl

/-- The search finds the blocks of all places. -/
theorem bodies_eq (t : Text) : bodies t = everyBody t := bodiesFrom_eq 0 t

theorem bodies_of_isBlock {t body rest : Text} (h : IsBlock t body rest) :
    bodies t = body :: bodies rest := by
  cases t with
  | nil =>
    obtain ⟨u, behind, heq, -⟩ := h.opens
    cases heq
  | cons u t =>
    rw [bodies_eq, everyBody_cons, bodyAt?_eq_some_iff.2 ⟨rest, h⟩, everyBody_of_isBlock h,
      bodies_eq]
    rfl

theorem bodies_cons_of_not_opens {u : TextUnit} {t : Text} (h : ¬ Opens (u :: t)) :
    bodies (u :: t) = bodies t := by
  rw [bodies_eq, everyBody_cons_of_not_opens h, bodies_eq]

end Fence
end ReleaseNotes
