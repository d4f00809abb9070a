/-
What the value of a tool is written as.

A text stands for itself.  Any other value is written as indented JSON, as long as its numerals are
short enough, and a value without floats is read back from what was written.

Main statements:
* `ToolValue.Stands` — a value and the text that it is written as;
* `ToolValue.encode_eq_ok_iff` — what is written is this text;
* `ToolValue.IsReadBack` — a text from which a value is read back;
* `ToolValue.Stands.isReadBack` — what is written is such a text.
-/
import ReleaseNotes.Proofs.Json.RoundTrip
import ReleaseNotes.Tool.Value

namespace ReleaseNotes

/-- The text of a value that is read back begins with no byte order mark. -/
theorem Json.Plain.head?_indented_ne {depth : Nat} {j : Json} (h : Json.Plain depth j)
    (style : Json.Style) : (j.indented style).head? ≠ some (.char '\uFEFF') := by
  have hnumeral : ∀ n rest, (Text.ofChars (Numeral.digits n) ++ rest).head? ≠
      some (.char '\uFEFF') := by
    intro n rest heq
    obtain ⟨c, ds, hcs, hother⟩ := Json.Reader.digits_begin n
    rw [hcs] at heq
    exact hother '\uFEFF' (by decide) (Option.some.inj heq)
  intro heq
  cases h with
  | null | str _ => cases heq
  | bool b => cases b <;> cases heq
  | @int _ n _ =>
    cases n with
    | ofNat n =>
      refine hnumeral n [] ?_
      rw [List.append_nil, ← heq]
      show _ = (Text.ofString (Numeral.print n)).head?
      rw [Text.ofString, Numeral.print, String.toList_ofList]
    | negSucc n =>
      change (Text.ofString ("-" ++ Numeral.print (n + 1))).head? = _ at heq
      rw [Text.ofString_append] at heq
      cases heq
  | @arr _ items _ => cases items <;> cases heq
  | @obj _ fields _ _ _ => cases fields <;> cases heq

namespace ToolValue

/-- A value of a tool and the text that it is written as. -/
inductive Stands : ToolValue → Text → Prop
  /-- A text stands for itself. -/
  | text (t : Text) : Stands (.data (.str t)) t
  /-- Any other JSON value is written as indented JSON. -/
  | data {j : Json} (other : ∀ t, j ≠ .str t) (writable : j.isWritable = true) :
    Stands (.data j) (j.indented .result)
  /-- So is a value that is shown as JSON, and if it is a text, then between quotation marks. -/
  | shown {j : Json} (writable : j.isWritable = true) : Stands (.shown j) (j.indented .result)

variable {v : ToolValue} {j : Json} {t : Text}

theorem encodeJson_eq_ok_iff :
    encodeJson j = .ok t ↔ j.isWritable = true ∧ t = j.indented .result := by
  rw [encodeJson]
  split
  · next h => simp [h, eq_comm]
  · next h => simp [h]

theorem encode_data_of_ne (other : ∀ t, j ≠ .str t) : (data j).encode = encodeJson j := by
  cases j with
  | str t => exact absurd rfl (other t)
  | null | bool _ | int _ | float _ | arr _ | obj _ => rfl

/-- A value is written as the text that stands for it, and as no other. -/
theorem encode_eq_ok_iff : v.encode = .ok t ↔ v.Stands t := by
  constructor
  · intro h
    cases v with
    | data j =>
      by_cases htext : ∃ s, j = .str s
      · obtain ⟨s, rfl⟩ := htext
        cases h
        exact .text t
      · have other : ∀ s, j ≠ .str s := fun s hs => htext ⟨s, hs⟩
        rw [encode_data_of_ne other, encodeJson_eq_ok_iff] at h
        obtain ⟨hwritable, rfl⟩ := h
        exact .data other hwritable
    | shown j =>
      obtain ⟨hwritable, rfl⟩ := encodeJson_eq_ok_iff.1 h
      exact .shown hwritable
    | unwritable problem => cases h
  · intro h
    cases h with
    | text => rfl
    | data other writable =>
      rw [encode_data_of_ne other, encodeJson_eq_ok_iff]
      exact ⟨writable, rfl⟩
    | shown writable => exact encodeJson_eq_ok_iff.2 ⟨writable, rfl⟩

/-- A text from which a value is read back: one that is no text itself, that has no floats, and whose
fields have names of their own. -/
def IsReadBack (v : ToolValue) (t : Text) : Prop :=
  ∀ j, v = .data j → (∀ s, j ≠ .str s) → Json.Plain Json.maxDepth j → Json.decode t = .ok j

theorem Stands.isReadBack (h : v.Stands t) : v.IsReadBack t := by
  rintro j rfl other plain
  have hencode := encode_eq_ok_iff.2 h
  rw [encode_data_of_ne other] at hencode
  obtain ⟨-, rfl⟩ := encodeJson_eq_ok_iff.1 hencode
  have hreads := Json.reads_indented plain .result 0
  have hblanks : Json.Reader.Blanks [] := by
    intro u hu
    cases hu
  have hdecode := Json.decode_of_reads hreads (plain.head?_indented_ne .result) hblanks
  rwa [List.append_nil] at hdecode

end ToolValue
end ReleaseNotes
