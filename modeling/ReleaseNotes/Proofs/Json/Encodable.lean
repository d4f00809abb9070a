/-
Texts that can be encoded.

A text has an encoding exactly if all its units are characters.  What is written with escapes for all
but printing ASCII characters always has one, whatever halves and bytes the value holds.

Main statements:
* `Text.IsEncodable` — all units are characters;
* `Text.isEncodable_iff_toChars?`, `Text.isEncodable_iff_fault?` — what is the same;
* `Json.isEncodable_indented` — the text of a value with everything else escaped.
-/
import Mathlib.Data.List.TakeWhile
import ReleaseNotes.Json.Print
import ReleaseNotes.Text.Encoding

namespace ReleaseNotes

namespace Text

/-- A text can be encoded: all its units are characters. -/
def IsEncodable (t : Text) : Prop := ∀ u ∈ t, ∃ c, u = .char c

theorem isEncodable_ofChars (cs : List Char) : (ofChars cs).IsEncodable := by
  intro u hu
  obtain ⟨c, -, rfl⟩ := List.mem_map.1 hu
  exact ⟨c, rfl⟩

theorem isEncodable_ofString (s : String) : (ofString s).IsEncodable := isEncodable_ofChars _

@[simp] theorem isEncodable_nil : IsEncodable [] := isEncodable_ofChars []

@[simp] theorem isEncodable_cons {u : TextUnit} {t : Text} :
    IsEncodable (u :: t) ↔ (∃ c, u = .char c) ∧ t.IsEncodable := List.forall_mem_cons

@[simp] theorem isEncodable_append {s t : Text} :
    IsEncodable (s ++ t) ↔ s.IsEncodable ∧ t.IsEncodable := List.forall_mem_append

theorem isEncodable_iff_toChars? {t : Text} : t.IsEncodable ↔ t.toChars?.isSome = true := by
  constructor
  · intro h
    induction t with
    | nil => rfl
    | cons u t ih =>
      obtain ⟨⟨c, rfl⟩, ht⟩ := isEncodable_cons.1 h
      rw [toChars?, Option.isSome_map]
      exact ih ht
  · intro h
    obtain ⟨cs, hcs⟩ := Option.isSome_iff_exists.1 h
    rw [eq_map_char_of_toChars? hcs]
    exact isEncodable_ofChars cs

theorem isEncodable_iff_fault? {t : Text} : t.IsEncodable ↔ Encoding.utf8.fault? t = none := by
  have hcovers : ∀ u : TextUnit, Encoding.utf8.covers u = true ↔ ∃ c, u = .char c := by
    intro u
    cases u <;> simp [Encoding.covers, TextUnit.char?]
  have hdrop : t.IsEncodable ↔ t.dropWhile Encoding.utf8.covers = [] := by
    rw [List.dropWhile_eq_nil_iff]
    exact forall₂_congr fun u _ => (hcovers u).symm
  rw [hdrop, Encoding.fault?]
  cases t.dropWhile Encoding.utf8.covers <;> simp

end Text

namespace Json

open Text

theorem isEncodable_escapedUnit (u : TextUnit) : (escapedUnit .result u).IsEncodable := by
  cases u with
  | half offset => exact isEncodable_ofChars _
  | byte value => exact isEncodable_ofChars _
  | char c =>
    have hcode : ∀ n, (escapedCode n).IsEncodable := fun n => isEncodable_ofChars _
    have hletter : ∀ d, (escapedLetter d).IsEncodable := fun d => isEncodable_ofChars _
    unfold escapedUnit
    simp only [apply_ite IsEncodable, hcode, hletter, isEncodable_append, isEncodable_cons,
      isEncodable_nil]
    simp

@[simp] theorem isEncodable_string (t : Text) : (string .result t).IsEncodable := by
  have hunits : IsEncodable (t.flatMap (escapedUnit .result)) := by
    intro u hu
    obtain ⟨v, -, hv⟩ := List.mem_flatMap.1 hu
    exact isEncodable_escapedUnit v u hv
  simp [string, hunits]

@[simp] theorem isEncodable_newline (margin : Nat) : (newline margin).IsEncodable := by
  refine isEncodable_cons.2 ⟨⟨_, rfl⟩, fun u hu => ?_⟩
  exact ⟨_, List.eq_of_mem_replicate hu⟩

theorem isEncodable_scalar (j : Json) : (scalar .result j).IsEncodable := by
  cases j with
  | bool b => cases b <;> exact isEncodable_ofString _
  | str t => exact isEncodable_string t
  | _ => exact isEncodable_ofString _

mutual

theorem isEncodable_indentedUnits :
    ∀ (margin : Nat) (j : Json), (indentedUnits .result margin j).IsEncodable
  | margin, .arr (v :: vs) => by
    have hv := isEncodable_indentedUnits (margin + 1) v
    have hvs := isEncodable_indentedItems (margin + 1) vs
    simp [indentedUnits, hv, hvs]
  | margin, .obj ((name, v) :: rest) => by
    have hv := isEncodable_indentedUnits (margin + 1) v
    have hrest := isEncodable_indentedFields (margin + 1) rest
    simp [indentedUnits, hv, hrest]
  | margin, .null | margin, .bool _ | margin, .int _ | margin, .float _ | margin, .str _
  | margin, .arr [] | margin, .obj [] => isEncodable_scalar _

theorem isEncodable_indentedItems :
    ∀ (margin : Nat) (vs : List Json), (indentedItems .result margin vs).IsEncodable
  | _, [] => isEncodable_nil
  | margin, v :: vs => by
    have hv := isEncodable_indentedUnits margin v
    have hvs := isEncodable_indentedItems margin vs
    simp [indentedItems, hv, hvs]

theorem isEncodable_indentedFields :
    ∀ (margin : Nat) (fields : Fields), (indentedFields .result margin fields).IsEncodable
  | _, [] => isEncodable_nil
  | margin, (name, v) :: rest => by
    have hv := isEncodable_indentedUnits margin v
    have hrest := isEncodable_indentedFields margin rest
    simp [indentedFields, hv, hrest]

end

/-- A result is written in ASCII, whatever texts it holds. -/
theorem isEncodable_indented (j : Json) : (j.indented .result).IsEncodable :=
  isEncodable_indentedUnits 0 j

end Json
end ReleaseNotes
