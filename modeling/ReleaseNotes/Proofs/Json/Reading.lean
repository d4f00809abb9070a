/-
What the reader reads.

The spelling of a value is read as the value whatever stands behind it, as long as that does not
carry on a number.  The spellings of arrays and objects are put together from those of their parts,
with blanks between the parts, whatever the layout is.

Main statements:
* `Reader.Blanks`, `Reader.Ends` — what may stand between the parts, and behind a value;
* `Reader.takeDigits_append` — digits;
* `Reader.Quotes`, `Reader.Reads` — a spelling of a text between quotation marks, and of a value;
* `Reader.ReadsItems`, `Reader.ReadsFields` — spellings of what an array or an object holds;
* `Reader.Reads.arr`, `Reader.Reads.obj`, `Reader.ReadsItems.cons`, `Reader.ReadsFields.cons` — how
  spellings are put together;
* `decode_of_reads` — a whole text.
-/
import Mathlib.Data.List.TakeWhile
import ReleaseNotes.Json.Decode

namespace ReleaseNotes
namespace Json
namespace Reader

variable {depth : Nat} {t w : Text} {j : Json}

/-! ### Between the parts -/

/-- A text of blanks alone. -/
def Blanks (w : Text) : Prop := ∀ u ∈ w, u.passes isSpace = true

/-- What follows a value: nothing that carries on a number. -/
def Ends (t : Text) : Prop :=
  ∀ u, t.head? = some u →
    u.passes Char.isDigit = false ∧ u ≠ .char '.' ∧ u ≠ .char 'e' ∧ u ≠ .char 'E'

/-- A unit that a value may begin with. -/
def Begins (u : TextUnit) : Prop :=
  u.passes isSpace = false ∧ u ≠ .char ']' ∧ u ≠ .char '}'

theorem skip_blanks (hw : Blanks w) (t : Text) : skip (w ++ t) = skip t :=
  List.dropWhile_append_of_pos hw

theorem skip_cons {u : TextUnit} (hu : u.passes isSpace = false) (t : Text) :
    skip (u :: t) = u :: t :=
  List.dropWhile_cons_of_neg (by simp [hu])

theorem skip_blanks_cons (hw : Blanks w) {u : TextUnit} (hu : u.passes isSpace = false)
    (t : Text) : skip (w ++ u :: t) = u :: t := by
  rw [skip_blanks hw, skip_cons hu]

theorem ends_nil : Ends [] := by
  intro u hu
  cases hu

theorem ends_cons {u : TextUnit} (hu : u.passes Char.isDigit = false)
    (hmarks : u ≠ .char '.' ∧ u ≠ .char 'e' ∧ u ≠ .char 'E') (t : Text) : Ends (u :: t) := by
  intro v hv
  cases hv
  exact ⟨hu, hmarks⟩

theorem Blanks.ends_append (hw : Blanks w) {t : Text} (ht : Ends t) : Ends (w ++ t) := by
  cases w with
  | nil => exact ht
  | cons u w =>
    have hu : u.passes isSpace = true := hw u List.mem_cons_self
    cases u with
    | half _ | byte _ => cases hu
    | char c =>
      have hc : c = ' ' ∨ c = '\t' ∨ c = '\n' ∨ c = '\r' := by
        simpa [TextUnit.passes, isSpace, or_assoc] using hu
      rw [List.cons_append]
      rcases hc with rfl | rfl | rfl | rfl <;> exact ends_cons (by decide) (by decide) _

theorem takeDigits_append {ds : List Char} (hds : ∀ c ∈ ds, c.isDigit = true) {rest : Text}
    (hrest : Ends rest) : takeDigits (Text.ofChars ds ++ rest) = (ds, rest) := by
  have hpass : ∀ u ∈ Text.ofChars ds, u.passes Char.isDigit = true := by
    intro u hu
    obtain ⟨c, hc, rfl⟩ := List.mem_map.1 hu
    exact hds c hc
  have hchars : (Text.ofChars ds).filterMap TextUnit.char? = ds := by
    simp [Text.ofChars, List.filterMap_map, Function.comp_def, TextUnit.char?]
  have htake : rest.takeWhile (fun u => u.passes Char.isDigit) = [] := by
    cases rest with
    | nil => rfl
    | cons u rest => exact List.takeWhile_cons_of_neg (by simp [(hrest u rfl).1])
  have hdrop : rest.dropWhile (fun u => u.passes Char.isDigit) = rest := by
    cases rest with
    | nil => rfl
    | cons u rest => exact List.dropWhile_cons_of_neg (by simp [(hrest u rfl).1])
  rw [takeDigits, Text.charsWhile, List.takeWhile_append_of_pos hpass,
    List.dropWhile_append_of_pos hpass, htake, hdrop, List.append_nil, hchars]

/-! ### Spellings -/

/-- Behind an opening quotation mark, the text up to its closing one is read as a text. -/
def Quotes (q s : Text) : Prop :=
  ∀ start rest, stringBody start [] false (q ++ rest) = .ok (s, rest)

/-- A spelling of a value, when so many arrays and objects may be opened. -/
structure Reads (depth : Nat) (t : Text) (j : Json) : Prop where
  begins : ∃ u rest, t = u :: rest ∧ Begins u
  read : ∀ fuel rest, t.length ≤ fuel → Ends rest → value fuel depth (t ++ rest) = .ok (j, rest)

/-- A spelling of the items of an array, with the closing bracket. -/
structure ReadsItems (depth : Nat) (t : Text) (js : List Json) : Prop where
  begins : ∃ u rest, t = u :: rest ∧ Begins u
  read : ∀ fuel rest, t.length ≤ fuel → items fuel depth (t ++ rest) = .ok (js, rest)

/-- Fields put one after another to those that are there. -/
def putAll (read : Fields) (fs : Fields) : Fields := fs.foldl (fun read f => put f.1 f.2 read) read

/-- A spelling of the fields of an object, with the closing brace. -/
structure ReadsFields (depth : Nat) (t : Text) (fs : Fields) : Prop where
  begins : ∃ rest, t = .char '"' :: rest
  read : ∀ fuel read rest, t.length ≤ fuel →
    fields fuel depth read (t ++ rest) = .ok (putAll read fs, rest)

/-- A spelling is not empty, so one step at least is left to read it. -/
theorem exists_fuel {u : TextUnit} {t : Text} {fuel : Nat} (h : (u :: t).length ≤ fuel) :
    ∃ n, fuel = n + 1 ∧ t.length ≤ n := by
  rw [List.length_cons] at h
  exact ⟨fuel - 1, by omega, by omega⟩

theorem Reads.str {q s : Text} (h : Quotes q s) : Reads depth (.char '"' :: q) (.str s) := by
  refine ⟨⟨_, q, rfl, by decide, by decide, by decide⟩, ?_⟩
  intro fuel rest hfuel _
  obtain ⟨n, rfl, -⟩ := exists_fuel hfuel
  show (stringBody _ [] false (q ++ rest)).bind (fun r => .ok (Json.str r.1, r.2)) = _
  rw [h]
  rfl

/-- What begins with no bracket, brace or quotation mark is a word or a number. -/
theorem Reads.scalar {u : TextUnit} (hu : Begins u)
    (hother : u ≠ .char '"' ∧ u ≠ .char '{' ∧ u ≠ .char '[')
    (h : ∀ rest, Ends rest → scalar (u :: t ++ rest) = .ok (j, rest)) :
    Reads depth (u :: t) j := by
  refine ⟨⟨u, t, rfl, hu⟩, ?_⟩
  intro fuel rest hfuel hrest
  obtain ⟨n, rfl, -⟩ := exists_fuel hfuel
  obtain ⟨hquote, hbrace, hbracket⟩ := hother
  rw [← h rest hrest, List.cons_append]
  unfold value
  split
  · next heq => exact absurd (List.cons_eq_cons.1 heq).1 hquote
  · next heq => exact absurd (List.cons_eq_cons.1 heq).1 hbrace
  · next heq => exact absurd (List.cons_eq_cons.1 heq).1 hbrace
  · next heq => exact absurd (List.cons_eq_cons.1 heq).1 hbracket
  · next heq => exact absurd (List.cons_eq_cons.1 heq).1 hbracket
  · rfl

/-! ### Arrays -/

theorem Reads.arr_nil : Reads (depth + 1) [.char '[', .char ']'] (.arr []) := by
  refine ⟨⟨_, _, rfl, by decide, by decide, by decide⟩, ?_⟩
  intro fuel rest hfuel _
  obtain ⟨n, rfl, -⟩ := exists_fuel hfuel
  rfl

theorem Reads.arr {js : List Json} (hw : Blanks w) (h : ReadsItems depth t js) :
    Reads (depth + 1) (.char '[' :: (w ++ t)) (.arr js) := by
  refine ⟨⟨_, _, rfl, by decide, by decide, by decide⟩, ?_⟩
  intro fuel rest hfuel _
  obtain ⟨n, rfl, hn⟩ := exists_fuel hfuel
  obtain ⟨u, t', rfl, hspace, hbracket, -⟩ := h.begins
  have hitems := h.read n rest (by rw [List.length_append] at hn; omega)
  have hskip : skip (w ++ u :: t' ++ rest) = u :: t' ++ rest := by
    rw [List.append_assoc]
    exact skip_blanks_cons hw hspace _
  rw [List.cons_append, value]
  split
  · next rest' heq =>
    rw [hskip] at heq
    exact absurd (List.cons_eq_cons.1 heq).1 hbracket
  · rw [hskip, hitems]
    rfl

/-- One item is read, and what stands behind it decides how the array goes on. -/
theorem items_append (h : Reads depth t j) {n : Nat} (hn : t.length ≤ n) {rest : Text}
    (hrest : Ends rest) :
    items (n + 1) depth (t ++ rest) =
      match skip rest with
      | .char ']' :: rest => .ok ([j], rest)
      | .char ',' :: rest =>
        (items n depth (skip rest)).bind fun r => .ok (j :: r.1, r.2)
      | rest => .error (.malformed .comma rest) := by
  rw [items, h.read n rest hn hrest]
  rfl

theorem ReadsItems.last (h : Reads depth t j) (hw : Blanks w) :
    ReadsItems depth (t ++ (w ++ [.char ']'])) [j] := by
  obtain ⟨u, t', ht, hu⟩ := h.begins
  refine ⟨⟨u, _, by rw [ht]; rfl, hu⟩, ?_⟩
  intro fuel rest hfuel
  obtain ⟨n, rfl⟩ : ∃ n, fuel = n + 1 := by
    rw [ht] at hfuel
    obtain ⟨n, hn, -⟩ := exists_fuel hfuel
    exact ⟨n, hn⟩
  have hn : t.length ≤ n := by
    simp only [List.length_append, List.length_singleton] at hfuel
    omega
  have hends : Ends (w ++ .char ']' :: rest) := hw.ends_append (ends_cons (by decide) (by decide) _)
  have htext : t ++ (w ++ [.char ']']) ++ rest = t ++ (w ++ .char ']' :: rest) := by simp
  rw [htext, items_append h hn hends, skip_blanks_cons hw (by decide)]
  rfl

/-- Behind a comma stand blanks and the items that follow. -/
theorem ReadsItems.cons {ts : Text} {js : List Json} (h : Reads depth t j) (hw : Blanks w)
    (hs : ReadsItems depth ts js) :
    ReadsItems depth (t ++ .char ',' :: (w ++ ts)) (j :: js) := by
  obtain ⟨u, t', ht, hu⟩ := h.begins
  obtain ⟨v, ts', hts, hspace, -, -⟩ := hs.begins
  refine ⟨⟨u, _, by rw [ht]; rfl, hu⟩, ?_⟩
  intro fuel rest hfuel
  have hpos : 1 ≤ t.length := by simp [ht]
  simp only [List.length_append, List.length_cons] at hfuel
  obtain ⟨n, rfl⟩ : ∃ n, fuel = n + 1 := ⟨fuel - 1, by omega⟩
  have hitems := hs.read n rest (by omega)
  have hends : Ends (.char ',' :: (w ++ ts ++ rest)) := ends_cons (by decide) (by decide) _
  have hskip : skip (w ++ ts ++ rest) = ts ++ rest := by
    rw [hts, List.append_assoc]
    exact skip_blanks_cons hw hspace _
  have htext : t ++ .char ',' :: (w ++ ts) ++ rest = t ++ .char ',' :: (w ++ ts ++ rest) := by simp
  rw [htext, items_append h (by omega) hends, skip_cons (by decide)]
  show (items n depth (skip (w ++ ts ++ rest))).bind _ = _
  rw [hskip, hitems]
  rfl

/-! ### Objects -/

theorem Reads.obj_nil : Reads (depth + 1) [.char '{', .char '}'] (.obj []) := by
  refine ⟨⟨_, _, rfl, by decide, by decide, by decide⟩, ?_⟩
  intro fuel rest hfuel _
  obtain ⟨n, rfl, -⟩ := exists_fuel hfuel
  rfl

theorem Reads.obj {fs : Fields} (hw : Blanks w) (h : ReadsFields depth t fs) :
    Reads (depth + 1) (.char '{' :: (w ++ t)) (.obj (putAll [] fs)) := by
  refine ⟨⟨_, _, rfl, by decide, by decide, by decide⟩, ?_⟩
  intro fuel rest hfuel _
  obtain ⟨n, rfl, hn⟩ := exists_fuel hfuel
  obtain ⟨t', rfl⟩ := h.begins
  have hfields := h.read n [] rest (by rw [List.length_append] at hn; omega)
  have hskip : skip (w ++ .char '"' :: t' ++ rest) = .char '"' :: t' ++ rest := by
    rw [List.append_assoc]
    exact skip_blanks_cons hw (by decide) _
  rw [List.cons_append, value]
  split
  · next rest' heq =>
    rw [hskip] at heq
    exact absurd (List.cons_eq_cons.1 heq).1 (by decide)
  · rw [hskip, hfields]
    rfl

/-- One field is read, and what stands behind it decides how the object goes on. -/
theorem fields_append {q name : Text} (hq : Quotes q name) (hw : Blanks w) (h : Reads depth t j)
    {n : Nat} (hn : t.length ≤ n) {rest : Text} (hrest : Ends rest) (read : Fields) :
    fields (n + 1) depth read (.char '"' :: (q ++ .char ':' :: (w ++ (t ++ rest)))) =
      match skip rest with
      | .char '}' :: rest => .ok (put name j read, rest)
      | .char ',' :: rest => fields n depth (put name j read) (skip rest)
      | rest => .error (.malformed .comma rest) := by
  obtain ⟨u, t', ht, hspace, -, -⟩ := h.begins
  have hcolon : skip (.char ':' :: (w ++ (t ++ rest))) = .char ':' :: (w ++ (t ++ rest)) :=
    skip_cons (by decide) _
  have hskip : skip (w ++ (t ++ rest)) = t ++ rest := by
    rw [ht]
    exact skip_blanks_cons hw hspace _
  show (stringBody _ [] false (q ++ .char ':' :: (w ++ (t ++ rest)))).bind _ = _
  rw [hq]
  dsimp only [Except.bind]
  rw [hcolon]
  show (value n depth (skip (w ++ (t ++ rest)))).bind _ = _
  rw [hskip, h.read n rest hn hrest]
  rfl

theorem ReadsFields.last {q name w' : Text} (hq : Quotes q name) (hw : Blanks w)
    (h : Reads depth t j) (hw' : Blanks w') :
    ReadsFields depth (.char '"' :: (q ++ .char ':' :: (w ++ (t ++ (w' ++ [.char '}'])))))
      [(name, j)] := by
  refine ⟨⟨_, rfl⟩, ?_⟩
  intro fuel read rest hfuel
  simp only [List.length_append, List.length_cons] at hfuel
  obtain ⟨n, rfl⟩ : ∃ n, fuel = n + 1 := ⟨fuel - 1, by omega⟩
  have hends : Ends (w' ++ .char '}' :: rest) :=
    hw'.ends_append (ends_cons (by decide) (by decide) _)
  have htext : .char '"' :: (q ++ .char ':' :: (w ++ (t ++ (w' ++ [.char '}'])))) ++ rest =
      .char '"' :: (q ++ .char ':' :: (w ++ (t ++ (w' ++ .char '}' :: rest)))) := by simp
  rw [htext, fields_append hq hw h (by omega) hends, skip_blanks_cons hw' (by decide)]
  rfl

/-- Behind a comma stand blanks and the fields that follow. -/
theorem ReadsFields.cons {q name w' ts : Text} {fs : Fields} (hq : Quotes q name) (hw : Blanks w)
    (h : Reads depth t j) (hw' : Blanks w') (hs : ReadsFields depth ts fs) :
    ReadsFields depth (.char '"' :: (q ++ .char ':' :: (w ++ (t ++ .char ',' :: (w' ++ ts)))))
      ((name, j) :: fs) := by
  refine ⟨⟨_, rfl⟩, ?_⟩
  intro fuel read rest hfuel
  obtain ⟨ts', hts⟩ := hs.begins
  simp only [List.length_append, List.length_cons] at hfuel
  obtain ⟨n, rfl⟩ : ∃ n, fuel = n + 1 := ⟨fuel - 1, by omega⟩
  have hends : Ends (.char ',' :: (w' ++ ts ++ rest)) := ends_cons (by decide) (by decide) _
  have hskip : skip (w' ++ ts ++ rest) = ts ++ rest := by
    rw [hts, List.append_assoc]
    exact skip_blanks_cons hw' (by decide) _
  have htext : .char '"' :: (q ++ .char ':' :: (w ++ (t ++ .char ',' :: (w' ++ ts)))) ++ rest =
      .char '"' :: (q ++ .char ':' :: (w ++ (t ++ .char ',' :: (w' ++ ts ++ rest)))) := by simp
  rw [htext, fields_append hq hw h (by omega) hends, skip_cons (by decide)]
  show fields n depth (put name j read) (skip (w' ++ ts ++ rest)) = _
  rw [hskip, hs.read n _ rest (by omega)]
  rfl

theorem put_of_not_mem {name : Text} {v : Json} {fs : Fields} (h : name ∉ fs.map Prod.fst) :
    put name v fs = fs ++ [(name, v)] := by
  induction fs with
  | nil => rfl
  | cons f fs ih =>
    rw [List.map_cons, List.mem_cons, not_or] at h
    obtain ⟨hne, hrest⟩ := h
    rw [put, if_neg (Ne.symm hne), ih hrest]
    rfl

/-- Fields with names of their own are put one behind the other. -/
theorem putAll_eq_append {read fs : Fields} (h : ((read ++ fs).map Prod.fst).Nodup) :
    putAll read fs = read ++ fs := by
  induction fs generalizing read with
  | nil => simp [putAll]
  | cons f fs ih =>
    have hname : f.1 ∉ read.map Prod.fst := by
      intro hmem
      rw [List.map_append, List.map_cons, List.nodup_append] at h
      exact h.2.2 _ hmem _ List.mem_cons_self rfl
    have hput : put f.1 f.2 read = read ++ [f] := put_of_not_mem hname
    have hassoc : read ++ f :: fs = read ++ [f] ++ fs := by simp
    show putAll (put f.1 f.2 read) fs = _
    rw [hput, hassoc]
    exact ih (by rwa [← hassoc])

theorem Reads.obj_of_nodup {fs : Fields} (hw : Blanks w) (h : ReadsFields depth t fs)
    (hnames : (fs.map Prod.fst).Nodup) : Reads (depth + 1) (.char '{' :: (w ++ t)) (.obj fs) := by
  have hput : putAll [] fs = fs := putAll_eq_append hnames
  have hobj := Reads.obj hw h
  rwa [hput] at hobj

/-! ### Whole texts -/

theorem document_of_reads (h : Reads maxDepth t j) (hw : Blanks w) : document (t ++ w) = .ok j := by
  obtain ⟨u, t', ht, hspace, -, -⟩ := h.begins
  have hskip : skip (t ++ w) = t ++ w := by
    rw [ht]
    exact skip_cons hspace _
  have hends : Ends w := by
    have hnil := hw.ends_append ends_nil
    rwa [List.append_nil] at hnil
  have hbehind : skip w = [] := by
    have hnil := skip_blanks hw []
    rwa [List.append_nil] at hnil
  -- the reader may take two steps for each unit, and one would do
  unfold document
  rw [hskip, h.read _ w (by rw [List.length_append]; omega) hends]
  dsimp only [bind, Except.bind]
  rw [hbehind]
  rfl

end Reader

/-- A spelling with blanks behind it is decoded, unless it begins with a byte order mark. -/
theorem decode_of_reads {t w : Text} {j : Json} (h : Reader.Reads maxDepth t j)
    (hmark : t.head? ≠ some (.char '\uFEFF')) (hw : Reader.Blanks w) :
    decode (t ++ w) = .ok j := by
  obtain ⟨u, t', ht, -⟩ := h.begins
  have hu : u ≠ .char '\uFEFF' := by
    rintro rfl
    exact hmark (by rw [ht]; rfl)
  have hdocument := Reader.document_of_reads h hw
  unfold decode
  split
  · next rest heq =>
    rw [ht] at heq
    exact absurd (List.cons_eq_cons.1 heq).1 hu
  · rw [hdocument]
    rfl

end Json
end ReleaseNotes
