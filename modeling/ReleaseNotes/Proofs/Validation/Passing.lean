/-
What passes a check.

A check says of every value whether it passes, and as what.  Each combinator of checks is described
by an equivalence, so that a model is described by putting the equivalences of its fields together.

Main statements:
* `Validated.ap_eq_ok_iff`, `Validated.andThen_eq_ok_iff` — outcomes side by side, and one after
  another;
* `Check.text_eq_ok_iff`, `Check.choice_eq_ok_iff`, `Check.nullable_eq_ok_iff` — plain values;
* `Check.object_eq_ok_iff`, `Check.required_eq_ok_iff`, `Check.optional_eq_ok_iff` — models and
  their fields;
* `Json.TellsText` — what a field of text tells that may be absent or null.
-/
import ReleaseNotes.Validation.Check

namespace ReleaseNotes

variable {α β : Type}

/-! ### Outcomes -/

namespace Validated

theorem map_eq_ok_iff {f : α → β} {v : Validated α} {b : β} :
    v.map f = .ok b ↔ ∃ a, v = .ok a ∧ f a = b := by
  cases v <;> simp [map]

theorem ap_eq_ok_iff {v : Validated (α → β)} {w : Validated α} {b : β} :
    v.ap w = .ok b ↔ ∃ f a, v = .ok f ∧ w = .ok a ∧ f a = b := by
  cases v <;> cases w <;> simp [ap]

theorem andThen_eq_ok_iff {v : Validated α} {f : α → Validated β} {b : β} :
    v.andThen f = .ok b ↔ ∃ a, v = .ok a ∧ f a = .ok b := by
  cases v <;> simp [andThen]

theorem under_eq_ok_iff {step : Step} {v : Validated α} {a : α} :
    v.under step = .ok a ↔ v = .ok a := by
  cases v <;> simp [under]

end Validated

/-! ### Plain values -/

namespace Check

theorem text_eq_ok_iff {j : Json} {t : Text} :
    text j = .ok t ↔ j = .str t ∧ t.hasByte = false := by
  cases j with
  | str s =>
    rw [text, Json.str.injEq]
    by_cases hs : s.hasByte = true
    · rw [if_pos hs]
      constructor
      · intro h
        cases h
      · rintro ⟨rfl, ht⟩
        rw [hs] at ht
        cases ht
    · rw [if_neg hs, Validated.ok.injEq]
      constructor
      · rintro rfl
        exact ⟨rfl, Bool.not_eq_true _ ▸ hs⟩
      · rintro ⟨rfl, -⟩
        rfl
  | _ => simp [text, refuse]

theorem nullable_eq_ok_iff {check : Check α} {j : Json} {o : Option α} :
    nullable check j = .ok o ↔
      (j = .null ∧ o = none) ∨ (j ≠ .null ∧ ∃ a, check j = .ok a ∧ some a = o) := by
  cases j with
  | null => simp [nullable, eq_comm]
  | _ => simp [nullable, Validated.map_eq_ok_iff]

/-- A value passes as one of the choices exactly if it is the word of that, provided that no two of
them go by one word. -/
theorem choice_eq_ok_iff {word : α → String} {choices : List α}
    (distinct : ∀ a ∈ choices, ∀ b ∈ choices, word a = word b → a = b) {j : Json} {a : α} :
    choice word choices j = .ok a ↔ a ∈ choices ∧ j = .text (word a) := by
  cases j with
  | str t =>
    rw [choice, pick, Json.text, Json.str.injEq]
    constructor
    · intro h
      split at h
      · cases h
      · split at h
        · next b hb =>
          cases h
          have hword : t.isString (word a) = true :=
            List.find?_some (p := fun a => t.isString (word a)) hb
          exact ⟨List.mem_of_find?_eq_some hb, eq_of_beq hword⟩
        · cases h
    · rintro ⟨ha, rfl⟩
      have hchars : (Text.ofString (word a)).toChars? = some (word a).toList :=
        Text.toChars?_map_char _
      have hfind : choices.find? (fun b => (Text.ofString (word a)).isString (word b)) = some a := by
        cases hb : choices.find? fun b => (Text.ofString (word a)).isString (word b) with
        | none => exact absurd (beq_self_eq_true _) (List.find?_eq_none.1 hb a ha)
        | some b =>
          -- the choice that is found goes by the same word
          have hsame : (Text.ofString (word a)).isString (word b) = true :=
            List.find?_some (p := fun b => (Text.ofString (word a)).isString (word b)) hb
          have hword : word a = word b := Text.ofString_inj.1 (eq_of_beq hsame)
          rw [distinct a ha b (List.mem_of_find?_eq_some hb) hword]
      rw [hchars, hfind]
      rfl
  | _ => simp [choice, pick, refuse, Json.text]

/-! ### Models and their fields -/

theorem object_eq_ok_iff {model : String} {read : Json.Fields → Validated α} {j : Json} {a : α} :
    object model read j = .ok a ↔ ∃ fields, j = .obj fields ∧ read fields = .ok a := by
  cases j <;> simp [object, refuse]

theorem required_eq_ok_iff {fields : Json.Fields} {name : String} {check : Check α} {a : α} :
    required fields name check = .ok a ↔
      ∃ j, Json.lookup name fields = some j ∧ check j = .ok a := by
  rw [required]
  cases Json.lookup name fields with
  | none => simp
  | some j => simp [Validated.under_eq_ok_iff]

theorem optional_eq_ok_iff {fields : Json.Fields} {name : String} {default : α} {check : Check α}
    {a : α} :
    optional fields name default check = .ok a ↔
      (Json.lookup name fields = none ∧ default = a) ∨
        ∃ j, Json.lookup name fields = some j ∧ check j = .ok a := by
  rw [optional]
  cases Json.lookup name fields with
  | none => simp
  | some j => simp [Validated.under_eq_ok_iff]

end Check

/-- What a field of text tells that may be absent or null. -/
def Json.TellsText (name : String) (fields : Json.Fields) : Option Text → Prop
  | none => Json.lookup name fields = none ∨ Json.lookup name fields = some .null
  | some t => Json.lookup name fields = some (.str t)

theorem Check.optional_text_eq_ok_iff {fields : Json.Fields} {name : String} {o : Option Text} :
    Check.optional fields name none (Check.nullable Check.text) = .ok o ↔
      Json.TellsText name fields o ∧ ∀ t, o = some t → t.hasByte = false := by
  rw [Check.optional_eq_ok_iff]
  cases o with
  | none => simp [Json.TellsText, Check.nullable_eq_ok_iff]
  | some t =>
    simp only [Json.TellsText, Check.nullable_eq_ok_iff, Check.text_eq_ok_iff]
    constructor
    · rintro (⟨-, h⟩ | ⟨j, hj, ⟨-, h⟩ | ⟨-, s, ⟨rfl, hs⟩, heq⟩⟩)
      · cases h
      · cases h
      · cases heq
        exact ⟨hj, fun u hu => Option.some.inj hu ▸ hs⟩
    · rintro ⟨hj, hbyte⟩
      exact .inr ⟨_, hj, .inr ⟨by simp, t, ⟨rfl, hbyte t rfl⟩, rfl⟩⟩

end ReleaseNotes
