/-
What a text is refused for, token by token.

Tokens are taken off the text from its front, so each of them begins at an end of the text.
Whatever makes the text no YAML, there are two more reasons to refuse it: the version of a directive
that is too long, and, with a backslash, an escape that stands for no character.  And a tag needs an
exclamation mark.

Main statements:
* `Cursor.ends_quotedScalar`, `Cursor.ends_blockScalar`, `Cursor.ends_tag` — the parts of the text;
* `Lexer.stays_step` — one more token;
* `tell_tokens` — all tokens of a text.
-/
import Mathlib.Data.List.InsertIdx
import Mathlib.Tactic.Common
import ReleaseNotes.Proofs.Yaml.Steps
import ReleaseNotes.Yaml.Lexer

namespace ReleaseNotes
namespace Yaml

variable {α : Type} {cs : List Char}

/-! ### What tokens tell -/

/-- What a text is refused for before its values are built: it is malformed, or one of its numbers
is wrong, or it has an escape whose number is too large. -/
def Fault.LiesIn (cs : List Char) : Fault → Prop
  | .malformed => True
  | .unbuildable f => f.kind = .value ∨ '\\' ∈ cs ∧ f.kind = .other "OverflowError"

/-- What a token tells of the text: a tag that it has an exclamation mark, and a scalar without any
mark that it was not read beyond a line. -/
def Token.Tells (cs : List Char) : Token → Prop
  | tag _ _ => '!' ∈ cs
  | scalar text true => text.getLast? ≠ some (.char '\n')
  | _ => True

/-! ### Places further on -/

namespace Cursor

theorem rest_next (c : Cursor) : c.next.rest <:+ c.rest := by
  unfold next
  split
  · exact List.suffix_rfl
  · next ch rest heq =>
    rw [heq]
    dsimp only
    split <;> exact List.suffix_cons _ _

theorem rest_advance (c : Cursor) (k : Nat) : (c.advance k).rest <:+ c.rest := by
  induction k generalizing c with
  | zero => exact List.suffix_rfl
  | succ k ih => exact (ih c.next).trans c.rest_next

theorem rest_skipWhile (c : Cursor) (test : Char → Bool) : (c.skipWhile test).rest <:+ c.rest :=
  c.rest_advance _

theorem rest_skipSpaces (c : Cursor) : c.skipSpaces.rest <:+ c.rest := c.rest_skipWhile _

theorem rest_skipComment (c : Cursor) : c.skipComment.rest <:+ c.rest := by
  unfold skipComment
  split
  · exact c.rest_skipWhile _
  · exact List.suffix_rfl

theorem rest_lineBreak (c : Cursor) : c.lineBreak.2.rest <:+ c.rest := by
  unfold lineBreak
  split
  · exact c.rest_advance 2
  · split
    · exact c.rest_next
    · split
      · exact c.rest_next
      · exact List.suffix_rfl

theorem mem_of_peek {c : Cursor} {ch : Char} (hch : ch ≠ endMark) (h : c.peek = ch) :
    ch ∈ c.rest := by
  unfold peek peekAt at h
  cases hrest : c.rest with
  | nil =>
    rw [hrest] at h
    exact absurd h.symm hch
  | cons first rest =>
    rw [hrest] at h
    exact h ▸ List.mem_cons_self

/-- What is taken off the text ends further on, or it is refused for what lies in the text. -/
abbrev Takes (cs : List Char) (x : Except Fault (α × Cursor)) : Prop :=
  Ends (Fault.LiesIn cs) (fun r => r.2.rest <:+ cs) x

/-- A token is taken off the text, of which it tells what it does. -/
abbrev TakesToken (cs : List Char) (x : Except Fault (Token × Cursor)) : Prop :=
  Ends (Fault.LiesIn cs) (fun r => r.2.rest <:+ cs ∧ r.1.Tells cs) x

theorem Takes.token {x : Except Fault (α × Cursor)} {f : α → Token} (h : Takes cs x)
    (hf : ∀ a, (f a).Tells cs) :
    TakesToken cs (x.map fun (a, behind) => (f a, behind)) :=
  Ends.map h fun r hr => ⟨hr, hf r.1⟩

variable {c : Cursor}

theorem ends_endOfLine (h : c.rest <:+ cs) :
    Ends (Fault.LiesIn cs) (fun behind => behind.rest <:+ cs) c.endOfLine := by
  unfold endOfLine
  dsimp only
  split
  · exact .ok ((rest_lineBreak _).trans (((rest_skipComment _).trans (rest_skipSpaces _)).trans h))
  · exact .error trivial

/-! ### Names, tags and directives -/

theorem takes_anchorName (h : c.rest <:+ cs) : Takes cs c.anchorName := by
  unfold anchorName
  dsimp only
  split
  · exact .error trivial
  · exact .ok (((rest_advance _ _).trans c.rest_next).trans h)

theorem takes_tagAddress (h : c.rest <:+ cs) : Takes cs c.tagAddress := by
  unfold tagAddress
  dsimp only
  split
  · exact .error trivial
  · split
    · exact .ok ((rest_advance _ _).trans h)
    · exact .error trivial

theorem takes_tagHandle (h : c.rest <:+ cs) : Takes cs c.tagHandle := by
  unfold tagHandle
  dsimp only
  split
  · exact .error trivial
  · split
    · exact .ok (c.rest_next.trans h)
    · split
      · exact .ok ((rest_advance _ _).trans h)
      · exact .error trivial

/-- A tag begins with its mark. -/
theorem takesToken_tag (h : c.rest <:+ cs) (hmark : c.peek = '!') : TakesToken cs c.tag := by
  have hmem : '!' ∈ cs := h.subset (mem_of_peek (by decide) hmark)
  have hfinish : ∀ {behind : Cursor} (handle : Option String) (suffix : String),
      behind.rest <:+ cs → TakesToken cs (tag.finish handle suffix behind) := by
    intro behind handle suffix hbehind
    unfold tag.finish
    split
    · exact .ok ⟨hbehind, hmem⟩
    · exact .error trivial
  unfold tag
  split
  · refine (takes_tagAddress ((c.rest_advance 2).trans h)).bind fun r hr => ?_
    dsimp only
    split
    · exact .error trivial
    · exact hfinish _ _ ((rest_next _).trans hr)
  · split
    · exact hfinish _ _ (c.rest_next.trans h)
    · dsimp only
      split
      · exact (takes_tagHandle h).bind fun r hr => (takes_tagAddress hr).bind fun _ hs =>
          hfinish _ _ hs
      · exact (takes_tagAddress (c.rest_next.trans h)).bind fun _ hr => hfinish _ _ hr

theorem takes_versionNumber (h : c.rest <:+ cs) : Takes cs c.versionNumber := by
  unfold versionNumber
  dsimp only
  split
  · exact .error trivial
  · split
    · exact .error (.inl rfl)
    · exact .ok ((rest_advance _ _).trans h)

theorem takesToken_versionDirective (h : c.rest <:+ cs) : TakesToken cs c.versionDirective := by
  unfold versionDirective
  refine (takes_versionNumber (c.rest_skipSpaces.trans h)).bind fun r hr => ?_
  dsimp only
  split
  · exact .error trivial
  · refine (takes_versionNumber ((rest_next _).trans hr)).bind fun s hs => ?_
    split
    · exact .ok ⟨hs, trivial⟩
    · exact .error trivial

theorem takesToken_handleDirective (h : c.rest <:+ cs) : TakesToken cs c.handleDirective := by
  unfold handleDirective
  refine (takes_tagHandle (c.rest_skipSpaces.trans h)).bind fun r hr => ?_
  dsimp only
  split
  · exact .error trivial
  · refine (takes_tagAddress ((rest_skipSpaces _).trans hr)).bind fun s hs => ?_
    split
    · exact .ok ⟨hs, trivial⟩
    · exact .error trivial

theorem takesToken_directive (h : c.rest <:+ cs) : TakesToken cs c.directive := by
  unfold directive
  extract_lets start name behind finish
  -- all directives end in the same way
  have hbehind : behind.rest <:+ cs := ((start.rest_advance _).trans c.rest_next).trans h
  have hfinish : ∀ r : Token × Cursor, r.2.rest <:+ cs ∧ r.1.Tells cs →
      TakesToken cs (finish r) := by
    intro r hr
    refine (ends_endOfLine hr.1).bind fun final hfinal => ?_
    exact .ok ⟨hfinal, hr.2⟩
  clear_value finish behind
  split
  · exact .error trivial
  · split
    · exact (takesToken_versionDirective hbehind).bind hfinish
    · exact (takesToken_handleDirective hbehind).bind hfinish
    · exact hfinish _ ⟨(rest_skipWhile _ _).trans hbehind, trivial⟩

/-! ### Quoted scalars -/

theorem takes_quotedBreaks (fuel : Nat) (h : c.rest <:+ cs) : Takes cs (quotedBreaks fuel c) := by
  induction fuel generalizing c with
  | zero => exact .ok h
  | succ fuel ih =>
    have hskip := (c.rest_skipWhile fun ch => ch == ' ' || ch == '\t').trans h
    rw [quotedBreaks]
    split
    · exact .error trivial
    · dsimp only
      split
      · exact (ih ((rest_lineBreak _).trans hskip)).bind fun _ hr => .ok hr
      · exact .ok hskip

/-- An escape begins with a backslash, and so does one that stands for no character. -/
theorem takes_escape (h : c.rest <:+ cs) (hmark : '\\' ∈ cs) : Takes cs c.escape := by
  unfold escape
  dsimp only
  split
  · exact .ok ((rest_advance _ _).trans h)
  · split
    · split
      · exact .error trivial
      · split
        · exact .error trivial
        · split
          · exact .error (.inr ⟨hmark, rfl⟩)
          · split
            · exact .error (.inl rfl)
            · exact .ok ((rest_advance _ _).trans h)
    · split
      · exact (takes_quotedBreaks _ ((rest_lineBreak _).trans (c.rest_next.trans h))).bind
          fun _ hr => .ok hr
      · exact .error trivial

theorem takes_quotedSpaces (h : c.rest <:+ cs) : Takes cs c.quotedSpaces := by
  have hbehind := (c.rest_advance (c.takeWhile fun ch => ch == ' ' || ch == '\t').length).trans h
  unfold quotedSpaces
  dsimp only
  split
  · exact .error trivial
  · split
    · exact (takes_quotedBreaks _ ((rest_lineBreak _).trans hbehind)).bind fun _ hr => .ok hr
    · exact .ok hbehind

theorem takes_quotedRest (quote : Char) (fuel : Nat) (h : c.rest <:+ cs) :
    Takes cs (quotedRest quote fuel c) := by
  induction fuel generalizing c with
  | zero => exact .error trivial
  | succ fuel ih =>
    rw [quotedRest]
    dsimp only
    split
    · exact .error trivial
    · split
      · exact (ih ((c.rest_advance 2).trans h)).bind fun _ hr => .ok hr
      · split
        · exact .ok (c.rest_next.trans h)
        · split
          · next hescape =>
            -- this branch is only for a backslash
            have hmark : c.peek = '\\' := by simp_all
            have hmem := h.subset (mem_of_peek (by decide) hmark)
            exact (takes_escape h hmem).bind fun _ hr => (ih hr).bind fun _ hs => .ok hs
          · split
            · exact (takes_quotedSpaces h).bind fun _ hr => (ih hr).bind fun _ hs => .ok hs
            · exact (ih (c.rest_next.trans h)).bind fun _ hr => .ok hr

theorem takes_quotedScalar (h : c.rest <:+ cs) : Takes cs c.quotedScalar :=
  takes_quotedRest _ _ (c.rest_next.trans h)

/-! ### Block scalars -/

theorem ends_increment? : Ends (Fault.LiesIn cs) (fun _ => True) c.increment? := by
  unfold increment?
  split
  · exact .error trivial
  · split <;> exact .ok trivial

theorem ends_blockSigns (h : c.rest <:+ cs) :
    Ends (Fault.LiesIn cs) (fun r => r.2.2.rest <:+ cs) c.blockSigns := by
  have hnext := c.rest_next.trans h
  have htwo := (c.rest_advance 2).trans h
  have hsigns : ∀ (chomping : Chomping) (increment : Option Nat) (behind : Cursor),
      behind.rest <:+ cs → Ends (Fault.LiesIn cs) (fun r => r.2.2.rest <:+ cs)
        (if isSpaceOrEnd behind.peek then pure (chomping, increment, behind)
          else .error .malformed : Except Fault (Chomping × Option Nat × Cursor)) := by
    intro chomping increment behind hbehind
    split
    · exact .ok hbehind
    · exact .error trivial
  unfold blockSigns
  split
  · next chomping _ =>
    refine ends_increment?.bind fun increment _ => hsigns chomping increment _ ?_
    split
    · exact htwo
    · exact hnext
  · refine ends_increment?.bind fun increment _ => ?_
    cases increment with
    | some n =>
      dsimp only
      split
      · exact hsigns _ _ _ htwo
      · exact hsigns _ _ _ hnext
    | none => exact hsigns _ _ _ h

theorem rest_leadingBreaks (fuel deepest : Nat) (c : Cursor) :
    (leadingBreaks fuel deepest c).2.2.rest <:+ c.rest := by
  induction fuel generalizing deepest c with
  | zero => exact List.suffix_rfl
  | succ fuel ih =>
    rw [leadingBreaks]
    dsimp only
    split
    · exact (ih _ _).trans c.rest_next
    · split
      · exact (ih _ _).trans c.rest_lineBreak
      · exact List.suffix_rfl

theorem rest_blockBreaks (indent fuel : Nat) (c : Cursor) :
    (blockBreaks indent fuel c).2.rest <:+ c.rest := by
  induction fuel generalizing c with
  | zero => exact List.suffix_rfl
  | succ fuel ih =>
    have hindent : (c.indentTo indent).rest <:+ c.rest := c.rest_advance _
    rw [blockBreaks]
    dsimp only
    split
    · exact ((ih _).trans (rest_lineBreak _)).trans hindent
    · exact hindent

theorem rest_blockLines (folds : Bool) (chomping : Chomping) (indent fuel : Nat)
    (before lineEnd : List Char) (c : Cursor) :
    (blockLines folds chomping indent fuel before lineEnd c).2.rest <:+ c.rest := by
  induction fuel generalizing before lineEnd c with
  | zero => exact List.suffix_rfl
  | succ fuel ih =>
    rw [blockLines]
    split
    · -- behind a line there are its break and further breaks
      extract_lets isIndented line
      split
      next b behind hbreak =>
      split
      next breaks behind' hbreaks =>
      have hline : behind.rest <:+ c.rest := by
        have := (rest_lineBreak (c.advance line.length)).trans (c.rest_advance line.length)
        rwa [hbreak] at this
      have hlines : behind'.rest <:+ c.rest := by
        have := (rest_blockBreaks indent (behind.rest.length + 1) behind).trans hline
        rwa [hbreaks] at this
      split
      · extract_lets joint
        exact (ih breaks b behind').trans hlines
      · exact hlines
    · exact List.suffix_rfl

theorem takes_blockScalar (indent : Int) (h : c.rest <:+ cs) : Takes cs (c.blockScalar indent) := by
  unfold blockScalar
  refine (ends_blockSigns (c.rest_next.trans h)).bind fun r hr => ?_
  refine (ends_endOfLine hr).bind fun behind hbehind => ?_
  dsimp only
  split
  · exact .ok (((rest_blockLines ..).trans (rest_leadingBreaks ..)).trans hbehind)
  · exact .ok (((rest_blockLines ..).trans (rest_blockBreaks ..)).trans hbehind)

/-! ### Plain scalars -/

theorem rest_plainBreaks (fuel : Nat) (c : Cursor) : (plainBreaks fuel c).2.rest <:+ c.rest := by
  induction fuel generalizing c with
  | zero => exact List.suffix_rfl
  | succ fuel ih =>
    rw [plainBreaks]
    split
    · exact (ih _).trans c.rest_next
    · split
      · dsimp only
        split
        · exact c.rest_lineBreak
        · exact (ih _).trans c.rest_lineBreak
      · exact List.suffix_rfl

theorem rest_plainSpaces (c : Cursor) : c.plainSpaces.2.1.rest <:+ c.rest := by
  have hblanks := c.rest_advance (c.takeWhile (· == ' ')).length
  unfold plainSpaces
  dsimp only
  split
  · have hbreak := (rest_lineBreak _).trans hblanks
    split
    · exact hbreak
    · split
      · exact (rest_plainBreaks _ _).trans hbreak
      · exact (rest_plainBreaks _ _).trans hbreak
  · exact hblanks

theorem rest_plainWords (inFlow : Bool) (indent : Int) (fuel : Nat) (before : List Char)
    (broken : Bool) (c : Cursor) :
    (plainWords inFlow indent fuel before broken c).2.1.rest <:+ c.rest := by
  induction fuel generalizing before broken c with
  | zero => exact List.suffix_rfl
  | succ fuel ih =>
    rw [plainWords]
    dsimp only
    generalize (if c.peek == '#' then [] else plainWord inFlow c.rest) = word
    split
    · exact List.suffix_rfl
    · have hbehind := (rest_plainSpaces (c.advance word.length)).trans (c.rest_advance word.length)
      split
      · exact hbehind
      · exact (ih _ _ _).trans hbehind

theorem rest_plainScalar (c : Cursor) (inFlow : Bool) (indent : Int) :
    (c.plainScalar inFlow indent).2.1.rest <:+ c.rest := by
  unfold plainScalar
  exact rest_plainWords ..

theorem ne_lineFeed_of_mem_plainWord {inFlow : Bool} {rest : List Char} {ch : Char}
    (h : ch ∈ plainWord inFlow rest) : ch ≠ '\n' := by
  induction rest with
  | nil => cases h
  | cons first rest ih =>
    rw [plainWord] at h
    split at h
    · cases h
    · next hends =>
      rcases List.mem_cons.1 h with rfl | h
      · rintro rfl
        exact hends (by simp [endsPlain, isBlankOrEnd, isSpaceOrEnd, isLineEnd, isBreak])
      · exact ih h

/-- Words end with one of their characters. -/
theorem getLast?_plainWords (inFlow : Bool) (indent : Int) (fuel : Nat) (before : List Char)
    (broken : Bool) (c : Cursor) :
    (plainWords inFlow indent fuel before broken c).1.getLast? ≠ some '\n' := by
  induction fuel generalizing before broken c with
  | zero => nofun
  | succ fuel ih =>
    rw [plainWords]
    dsimp only
    have hchars : ∀ ch ∈ (if c.peek == '#' then [] else plainWord inFlow c.rest), ch ≠ '\n' := by
      split
      · nofun
      · exact fun _ => ne_lineFeed_of_mem_plainWord
    revert hchars
    generalize (if c.peek == '#' then [] else plainWord inFlow c.rest) = word
    intro hchars
    split
    · nofun
    · next hne =>
      have hword : word ≠ [] := by simpa using hne
      have hlast : (before ++ word).getLast? ≠ some '\n' := by
        rw [List.getLast?_append, List.getLast?_eq_some_getLast hword, Option.some_or]
        exact fun h => hchars _ (List.getLast_mem hword) (Option.some.inj h)
      split
      · exact hlast
      · dsimp only
        rw [List.getLast?_append]
        intro h
        -- the text ends with a further word, or without one
        rcases Option.or_eq_some_iff.1 h with hmore | ⟨-, hbefore⟩
        · exact ih _ _ _ hmore
        · exact hlast hbefore

theorem getLast?_plainScalar (c : Cursor) (inFlow : Bool) (indent : Int) :
    (c.plainScalar inFlow indent).1.getLast? ≠ some (.char '\n') := by
  unfold plainScalar
  dsimp only
  rw [List.getLast?_map]
  intro h
  obtain ⟨ch, hch, heq⟩ := Option.map_eq_some_iff.1 h
  cases heq
  exact getLast?_plainWords _ _ _ _ _ _ hch

end Cursor

/-! ### Lexers -/

namespace Lexer

/-- A lexer is at an end of a text, and its tokens tell of this text. -/
structure IsOn (cs : List Char) (l : Lexer) : Prop where
  rest : l.cursor.rest <:+ cs
  tokens : ∀ t ∈ l.tokens, t.Tells cs

/-- A step of the lexer stays on the text, or the text is refused for what lies in it. -/
abbrev Stays (cs : List Char) (x : Except Fault Lexer) : Prop := Ends (Fault.LiesIn cs) (IsOn cs) x

variable {l : Lexer}

theorem IsOn.push {t : Token} (h : IsOn cs l) (ht : t.Tells cs) : IsOn cs (l.push t) where
  rest := h.rest
  tokens := List.forall_mem_cons.2 ⟨ht, h.tokens⟩

theorem IsOn.insert {number : Nat} {t : Token} (h : IsOn cs l) (ht : t.Tells cs) :
    IsOn cs (l.insert number t) where
  rest := h.rest
  tokens s hs := by
    rcases List.eq_or_mem_of_mem_insertIdx hs with rfl | hs
    · exact ht
    · exact h.tokens s hs

theorem IsOn.withCursor {c : Cursor} (h : IsOn cs l) (hc : c.rest <:+ cs) :
    IsOn cs { l with cursor := c } :=
  ⟨hc, h.tokens⟩

theorem IsOn.mark {length : Nat} {t : Token} (h : IsOn cs l) (ht : t.Tells cs) :
    IsOn cs (l.mark length t) :=
  (h.push ht).withCursor ((l.cursor.rest_advance _).trans h.rest)

theorem stays_dropKey (h : IsOn cs l) : Stays cs l.dropKey := by
  unfold dropKey
  split
  · split
    · exact .error trivial
    · exact .ok ⟨h.rest, h.tokens⟩
  · exact .ok h

theorem stays_saveKey (h : IsOn cs l) : Stays cs l.saveKey := by
  unfold saveKey
  split
  · exact (stays_dropKey h).bind fun _ hl => .ok ⟨hl.rest, hl.tokens⟩
  · exact .ok h

theorem ends_stillPossible (c : Cursor) (key : Option PossibleKey) :
    Ends (Fault.LiesIn cs) (fun _ => True) (stillPossible c key) := by
  unfold stillPossible
  split
  · exact .ok trivial
  · split
    · exact .ok trivial
    · split
      · exact .error trivial
      · exact .ok trivial

theorem stays_dropStaleKeys (h : IsOn cs l) : Stays cs l.dropStaleKeys := by
  have houter : ∀ keys : List (Option PossibleKey),
      Ends (Fault.LiesIn cs) (fun _ => True) (keys.mapM (stillPossible l.cursor)) := by
    intro keys
    induction keys with
    | nil => exact .ok trivial
    | cons key keys ih =>
      rw [List.mapM_cons]
      exact (ends_stillPossible _ _).bind fun _ _ => ih.bind fun _ _ => .ok trivial
  exact (ends_stillPossible _ _).bind fun _ _ => (houter _).bind fun _ _ =>
    .ok ⟨h.rest, h.tokens⟩

theorem IsOn.closeBlocksTo {column : Int} {outer : List Int} (h : IsOn cs l) :
    IsOn cs (closeBlocksTo column outer l) := by
  induction outer generalizing l with
  | nil => exact h
  | cons indent outer ih =>
    rw [Lexer.closeBlocksTo]
    split
    · have hpush : IsOn cs (l.push .blockEnd) := h.push trivial
      exact ih ⟨hpush.rest, hpush.tokens⟩
    · exact h

theorem IsOn.closeBlocks {column : Int} (h : IsOn cs l) : IsOn cs (l.closeBlocks column) := by
  unfold Lexer.closeBlocks
  split
  · exact h
  · exact h.closeBlocksTo

theorem stays_leaveDocument (h : IsOn cs l) : Stays cs l.leaveDocument :=
  (stays_dropKey h.closeBlocks).bind fun _ hl => .ok ⟨hl.rest, hl.tokens⟩

theorem stays_take {taken : Except Fault (Token × Cursor)} (h : IsOn cs l)
    (ht : Cursor.TakesToken cs taken) : Stays cs (l.take taken) :=
  ht.bind fun _ hr => .ok ((h.push hr.2).withCursor hr.1)

theorem stays_takeKeyPart {taken : Except Fault (Token × Cursor)} (h : IsOn cs l)
    (ht : Cursor.TakesToken cs taken) : Stays cs (l.takeKeyPart taken) :=
  (stays_saveKey h).bind fun _ hl => stays_take ⟨hl.rest, hl.tokens⟩ ht

theorem stays_openFlow {t : Token} (h : IsOn cs l) (ht : t.Tells cs) :
    Stays cs (l.openFlow t) := by
  refine (stays_saveKey h).bind fun l hl => ?_
  have hmark : IsOn cs (l.mark 1 t) := hl.mark ht
  exact .ok ⟨hmark.rest, hmark.tokens⟩

theorem stays_closeFlow {t : Token} (h : IsOn cs l) (ht : t.Tells cs) :
    Stays cs (l.closeFlow t) := by
  refine (stays_dropKey h).bind fun l hl => ?_
  have hmark : IsOn cs (l.mark 1 t) := hl.mark ht
  split
  · exact .error trivial
  · exact .ok ⟨hmark.rest, hmark.tokens⟩

theorem stays_flowEntry (h : IsOn cs l) : Stays cs l.flowEntry := by
  refine (stays_dropKey h).bind fun l hl => ?_
  have hmark : IsOn cs (l.mark 1 .flowEntry) := hl.mark trivial
  exact .ok ⟨hmark.rest, hmark.tokens⟩

theorem stays_openBlockHere {start : Token} (h : IsOn cs l) (hstart : start.Tells cs) :
    Stays cs (l.openBlockHere start) := by
  unfold openBlockHere
  split
  · exact .ok h
  · split
    · exact .error trivial
    · split
      · have hpush : IsOn cs (l.push start) := h.push hstart
        exact .ok ⟨hpush.rest, hpush.tokens⟩
      · exact .ok h

theorem stays_blockEntry (h : IsOn cs l) : Stays cs l.blockEntry := by
  have hopen : Stays cs (l.openBlockHere .blockSequenceStart) := stays_openBlockHere h trivial
  refine hopen.bind fun l hl => (stays_dropKey hl).bind fun l hl => ?_
  have hmark : IsOn cs (l.mark 1 .blockEntry) := hl.mark trivial
  exact .ok ⟨hmark.rest, hmark.tokens⟩

theorem stays_keyMark (h : IsOn cs l) : Stays cs l.keyMark := by
  have hopen : Stays cs (l.openBlockHere .blockMappingStart) := stays_openBlockHere h trivial
  refine hopen.bind fun l hl => (stays_dropKey hl).bind fun l hl => ?_
  have hmark : IsOn cs (l.mark 1 .key) := hl.mark trivial
  exact .ok ⟨hmark.rest, hmark.tokens⟩

theorem stays_valueMark (h : IsOn cs l) : Stays cs l.valueMark := by
  unfold valueMark
  split
  · next key _ =>
    -- a key that was possible is one, so its tokens are put where it began
    have hkey : IsOn cs (l.insert key.number .key) := h.insert trivial
    have hdropped : IsOn cs { l.insert key.number .key with key := none, allowsKey := false } :=
      ⟨hkey.rest, hkey.tokens⟩
    refine .ok (IsOn.mark ?_ trivial)
    dsimp only
    split
    · have hblock : IsOn cs
          ({ l.insert key.number .key with key := none, allowsKey := false }.insert key.number
            .blockMappingStart) := hdropped.insert trivial
      exact ⟨hblock.rest, hblock.tokens⟩
    · exact hdropped
  · have hopen : Stays cs (l.openBlockHere .blockMappingStart) := stays_openBlockHere h trivial
    refine hopen.bind fun l hl => ?_
    have hmark : IsOn cs (l.mark 1 .value) := hl.mark trivial
    exact .ok ⟨hmark.rest, hmark.tokens⟩

theorem stays_block (h : IsOn cs l) : Stays cs l.block := by
  have hallows : IsOn cs { l with allowsKey := true } := ⟨h.rest, h.tokens⟩
  refine (stays_dropKey hallows).bind fun l hl => ?_
  refine (Cursor.takes_blockScalar _ hl.rest).bind fun r hr => ?_
  have hpush : IsOn cs (l.push (.scalar r.1 false)) := hl.push trivial
  exact .ok (hpush.withCursor hr)

theorem stays_quotedScalar (h : IsOn cs l) : Stays cs l.quotedScalar :=
  have hquoted := Cursor.takes_quotedScalar h.rest
  stays_takeKeyPart h (hquoted.token (f := fun text => .scalar text false) fun _ => trivial)

theorem stays_plainScalar (h : IsOn cs l) : Stays cs l.plainScalar := by
  refine (stays_saveKey h).bind fun l hl => ?_
  have hpush : IsOn cs (l.push (.scalar (l.cursor.plainScalar l.inFlow l.indent).1 true)) :=
    hl.push (l.cursor.getLast?_plainScalar _ _)
  exact .ok ⟨(l.cursor.rest_plainScalar _ _).trans hl.rest, hpush.tokens⟩

theorem rest_skipBlanks (fuel : Nat) (c : Cursor) (broken : Bool) :
    (skipBlanks fuel c broken).1.rest <:+ c.rest := by
  induction fuel generalizing c broken with
  | zero => exact List.suffix_rfl
  | succ fuel ih =>
    have hskip := c.skipSpaces.rest_skipComment.trans c.rest_skipSpaces
    rw [skipBlanks]
    split
    · exact ((ih _ _).trans (Cursor.rest_lineBreak _)).trans hskip
    · exact hskip

theorem stays_token (h : IsOn cs l) : Stays cs l.token := by
  have hname := Cursor.takes_anchorName h.rest
  unfold token
  extract_lets c apart
  split
  · exact (stays_leaveDocument h).bind fun _ hl => .ok (hl.push trivial)
  · split
    · have hdirective := Cursor.takesToken_directive h.rest
      exact (stays_leaveDocument h).bind fun _ hl => stays_take hl hdirective
    · split
      · exact (stays_leaveDocument h).bind fun _ hl => .ok (hl.mark trivial)
      · split
        · exact (stays_leaveDocument h).bind fun _ hl => .ok (hl.mark trivial)
        · split
          · exact stays_openFlow h trivial
          · exact stays_openFlow h trivial
          · exact stays_closeFlow h trivial
          · exact stays_closeFlow h trivial
          · exact stays_flowEntry h
          · exact stays_takeKeyPart h (hname.token (f := .alias) fun _ => trivial)
          · exact stays_takeKeyPart h (hname.token (f := .anchor) fun _ => trivial)
          · next hpeek => exact stays_takeKeyPart h (Cursor.takesToken_tag h.rest hpeek)
          · exact stays_quotedScalar h
          · exact stays_quotedScalar h
          · split
            · exact stays_blockEntry h
            · split
              · exact stays_keyMark h
              · split
                · exact stays_valueMark h
                · split
                  · exact stays_block h
                  · split
                    · exact stays_plainScalar h
                    · exact .error trivial

theorem stays_step (h : IsOn cs l) : Stays cs l.step := by
  unfold step
  extract_lets start
  have hstart : start.rest <:+ cs := by
    unfold start
    split
    · exact l.cursor.rest_next.trans h.rest
    · exact h.rest
  split
  next cursor broken hskip =>
  have hcursor : cursor.rest <:+ cs := by
    have := (rest_skipBlanks (start.rest.length + 1) start false).trans hstart
    rwa [hskip] at this
  extract_lets l'
  have hl : IsOn cs l' := ⟨hcursor, h.tokens⟩
  exact (stays_dropStaleKeys hl).bind fun _ hl => stays_token hl.closeBlocks

theorem stays_advance (h : IsOn cs l) : Stays cs l.advance := by
  refine (stays_step h).bind fun l hl => ?_
  split
  · exact .ok hl
  · exact stays_dropStaleKeys hl

end Lexer

/-- The tokens of a text tell of it, and what it is refused for lies in it. -/
structure Tokens.Tell (cs : List Char) (ts : Tokens) : Prop where
  tokens : ∀ t ∈ ts.tokens, t.Tells cs
  fault : ∀ fault, ts.fault = some fault → fault.LiesIn cs

namespace Lexer

variable {l : Lexer}

theorem tells_of_mem_settled (h : IsOn cs l) {t : Token} (ht : t ∈ l.settled) : t.Tells cs :=
  h.tokens t (List.mem_reverse.1 (List.mem_of_mem_take ht))

theorem tell_refused {fault : Fault} (h : IsOn cs l) (hfault : fault.LiesIn cs) :
    (l.refused fault).Tell cs where
  tokens _ := tells_of_mem_settled h
  fault := by
    rintro _ ⟨⟩
    exact hfault

theorem tell_run (fuel : Nat) (h : IsOn cs l) : (run fuel l).Tell cs := by
  induction fuel generalizing l with
  | zero => exact tell_refused h trivial
  | succ fuel ih =>
    have hnext := stays_advance h
    rw [run]
    revert hnext
    generalize l.advance = next
    rintro (hon | hfault)
    · rw [continued]
      split
      · exact ⟨fun t ht => hon.tokens t (List.mem_reverse.1 ht), nofun⟩
      · exact ih hon
    · exact tell_refused h hfault

end Lexer

/-- The tokens of a text tell of it; it is refused for an escape only if it has a backslash. -/
theorem tell_tokens (cs : List Char) : (tokens cs).Tell cs := by
  have hstart : Lexer.IsOn cs { cursor := { rest := cs } } := ⟨List.suffix_rfl, nofun⟩
  unfold tokens
  generalize cs.length + 1 = fuel
  split
  · exact Lexer.tell_run fuel hstart
  · refine ⟨nofun, ?_⟩
    rintro _ ⟨⟩
    trivial

end Yaml
end ReleaseNotes
