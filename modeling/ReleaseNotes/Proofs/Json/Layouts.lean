/-
Documents in both layouts.

A value that is read back from its text is read back from its document, whether that has one item a
line or stands on one line: nothing in it has to be replaced, and its texts can be encoded.

Main statements:
* `reads_compact` — the text of a value on one line;
* `Plain.presentable_eq`, `Plain.isEncodable_texts` — nothing is replaced, and the texts can be
  encoded;
* `Plain.documentIn_eq` — the document of a value;
* `Plain.decode_text` — the document is read as the value.
-/
import ReleaseNotes.Json.Layout
import ReleaseNotes.Proofs.Json.Encodable
import ReleaseNotes.Proofs.Json.RoundTrip

namespace ReleaseNotes

theorem Text.shown_ofString (s : String) : (ofString s).shown = s := by
  simp [shown, shownChars, ofString, ofChars, List.flatMap_map]

namespace Json

variable {depth : Nat} {style : Style} {j : Json}

namespace Reader

/-! ### On one line -/

/-- What stands behind a mark on a line. -/
theorem blanks_mark (style : Style) (c : Char) :
    ∃ w, style.mark c = .char c :: w ∧ Blanks w := by
  cases hspaced : style.spaced with
  | false =>
    refine ⟨[], by simp [Style.mark, hspaced], ?_⟩
    intro u hu
    cases hu
  | true => exact ⟨[.char ' '], by simp [Style.mark, hspaced], blanks_space⟩

theorem blanks_nil : Blanks [] := by
  intro u hu
  cases hu

theorem readsItems_compact {v : Json} {vs : List Json}
    (h : ∀ u ∈ v :: vs, Reads depth (compactUnits style u) u) :
    ReadsItems depth (compactUnits style v ++ compactItems style vs ++ [.char ']']) (v :: vs) := by
  induction vs generalizing v with
  | nil =>
    rw [compactItems, List.append_nil]
    exact .last (h v List.mem_cons_self) blanks_nil
  | cons w vs ih =>
    obtain ⟨gap, hmark, hgap⟩ := blanks_mark style ','
    have hrest := ih fun u hu => h u (List.mem_cons_of_mem _ hu)
    have hcons := ReadsItems.cons (h v List.mem_cons_self) hgap hrest
    rw [compactItems, hmark]
    simpa using hcons

theorem readsFields_compact {name : Text} {v : Json} {rest : Fields}
    (hnames : ∀ f ∈ (name, v) :: rest, ∃ s : String, f.1 = s)
    (h : ∀ f ∈ (name, v) :: rest, Reads depth (compactUnits style f.2) f.2) :
    ReadsFields depth (string style name ++ style.mark ':' ++ compactUnits style v ++
      compactFields style rest ++ [.char '}']) ((name, v) :: rest) := by
  obtain ⟨colonGap, hcolon, hcolonGap⟩ := blanks_mark style ':'
  obtain ⟨commaGap, hcomma, hcommaGap⟩ := blanks_mark style ','
  induction rest generalizing name v with
  | nil =>
    obtain ⟨s, hs⟩ := hnames _ List.mem_cons_self
    have hlast := ReadsFields.last (quotes_string style s) hcolonGap (h _ List.mem_cons_self)
      blanks_nil
    dsimp only at hs
    rw [compactFields, string, hs, hcolon]
    simpa using hlast
  | cons f rest ih =>
    obtain ⟨s, hs⟩ := hnames _ List.mem_cons_self
    have hrest := ih (fun g hg => hnames g (List.mem_cons_of_mem _ hg))
      fun g hg => h g (List.mem_cons_of_mem _ hg)
    have hcons := ReadsFields.cons (quotes_string style s) hcolonGap (h _ List.mem_cons_self)
      hcommaGap hrest
    dsimp only at hs
    rw [compactFields, string, hs, hcolon, hcomma]
    rw [hcolon] at hcons
    simpa using hcons

end Reader

/-- The text of a value on one line is read as the value, in every style. -/
theorem reads_compact (h : Plain depth j) (style : Style) :
    Reader.Reads depth (compactUnits style j) j := by
  induction h with
  | null => exact Reader.reads_null
  | bool b => exact Reader.reads_bool b
  | int h => exact Reader.reads_printInt h
  | str s => exact .str (Reader.quotes_string style s)
  | @arr depth items _ ih =>
    cases items with
    | nil => exact .arr_nil
    | cons v vs =>
      have harr := Reader.Reads.arr Reader.blanks_nil (Reader.readsItems_compact ih)
      rw [compactUnits]
      simpa using harr
  | @obj depth fields distinct names _ ih =>
    cases fields with
    | nil => exact .obj_nil
    | cons f rest =>
      have hobj := Reader.Reads.obj_of_nodup Reader.blanks_nil
        (Reader.readsFields_compact names ih) distinct
      rw [compactUnits]
      simpa using hobj

/-! ### Documents -/

theorem presentableItems_eq {items : List Json} (h : ∀ v ∈ items, v.presentable = v) :
    presentableItems items = items := by
  induction items with
  | nil => rfl
  | cons v vs ih =>
    rw [presentableItems, h v List.mem_cons_self, ih fun u hu => h u (List.mem_cons_of_mem _ hu)]

theorem presentableFields_eq {fields : Fields} (names : ∀ f ∈ fields, ∃ s : String, f.1 = s)
    (h : ∀ f ∈ fields, f.2.presentable = f.2) : presentableFields fields = fields := by
  induction fields with
  | nil => rfl
  | cons f rest ih =>
    obtain ⟨name, v⟩ := f
    obtain ⟨s, hs⟩ := names _ List.mem_cons_self
    have hv : v.presentable = v := h _ List.mem_cons_self
    have hrest := ih (fun g hg => names g (List.mem_cons_of_mem _ hg))
      fun g hg => h g (List.mem_cons_of_mem _ hg)
    dsimp only at hs
    rw [presentableFields, hs, Text.shown_ofString, hv, hrest]

/-- A value that is read back has no floats, and names of characters. -/
theorem Plain.presentable_eq (h : Plain depth j) : j.presentable = j := by
  induction h with
  | null | bool _ | int _ | str _ => rfl
  | arr _ ih => rw [presentable, presentableItems_eq ih]
  | obj _ names _ ih => rw [presentable, presentableFields_eq names ih]

theorem mem_textsOfItems {items : List Json} {t : Text} :
    t ∈ textsOfItems items ↔ ∃ v ∈ items, t ∈ v.texts := by
  induction items with
  | nil => simp [textsOfItems]
  | cons v vs ih => simp [textsOfItems, ih]

theorem mem_textsOfFields {fields : Fields} {t : Text} :
    t ∈ textsOfFields fields ↔ ∃ f ∈ fields, t ∈ f.2.texts := by
  induction fields with
  | nil => simp [textsOfFields]
  | cons f rest ih => simp [textsOfFields, ih]

theorem Plain.isEncodable_texts (h : Plain depth j) : ∀ t ∈ j.texts, t.IsEncodable := by
  induction h with
  | null | bool _ | int _ =>
    intro t ht
    cases ht
  | str s =>
    intro t ht
    rw [List.mem_singleton.1 ht]
    exact Text.isEncodable_ofString s
  | arr _ ih =>
    intro t ht
    obtain ⟨v, hv, htv⟩ := mem_textsOfItems.1 ht
    exact ih v hv t htv
  | obj _ _ _ ih =>
    intro t ht
    obtain ⟨f, hf, htf⟩ := mem_textsOfFields.1 ht
    exact ih f hf t htf

theorem Plain.documentIn_eq (h : Plain depth j) (layout : Layout) :
    j.documentIn layout = .ok (layout.text j) := by
  have htexts : j.texts.findSome? Encoding.utf8.fault? = none :=
    List.findSome?_eq_none_iff.2 fun t ht =>
      Text.isEncodable_iff_fault?.1 (h.isEncodable_texts t ht)
  rw [documentIn, htexts, h.presentable_eq]

/-- The text of an object in either layout is read as the object, with blanks behind it too. -/
theorem Plain.decode_text {fields : Fields} (h : Plain maxDepth (.obj fields)) (layout : Layout)
    {w : Text} (hw : Reader.Blanks w) :
    decode (layout.text (.obj fields) ++ w) = .ok (.obj fields) := by
  cases layout with
  | indented =>
    refine decode_of_reads (reads_indented h .document 0) ?_ hw
    -- an object begins with a brace in either layout
    cases fields <;> nofun
  | line =>
    refine decode_of_reads (reads_compact h .documentLine) ?_ hw
    cases fields <;> nofun

end Json
end ReleaseNotes
