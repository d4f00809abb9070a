/-
Documents seen to a depth.

A document may hold itself, so its value is only seen to a depth.  Down to that depth it looks the
same however much deeper it is seen.

Main statements:
* `Yaml.Built.alike_value` — the value of a document, seen to two depths;
* `Yaml.read_alike` — the value of a text.
-/
import ReleaseNotes.Proofs.Json.Places
import ReleaseNotes.Yaml.Value

namespace ReleaseNotes
namespace Yaml

namespace Built

theorem alike_objectOf {k : Nat} {fields others : Json.Fields}
    (h : Json.AlikeFields k fields others) :
    Json.Alike (k + 1) (objectOf fields) (objectOf others) := by
  -- both are put together field by field, whatever stands there before
  have hbefore : ∀ before before', Json.AlikeFields k before before' → Json.AlikeFields k
      (fields.foldl (fun before f => Json.put f.1 f.2 before) before)
      (others.foldl (fun before f => Json.put f.1 f.2 before) before') := by
    induction h with
    | nil => exact fun _ _ hbefore => hbefore
    | @cons f g fields others hfg _ ih =>
      obtain ⟨name, v⟩ := f
      obtain ⟨name', w⟩ := g
      obtain ⟨rfl, hvalue⟩ := hfg
      exact fun before before' hbefore => ih _ _ (hbefore.put hvalue name)
  exact hbefore [] [] .nil

variable {b : Built} {k : Nat} {value value' : NodeId → Json}

theorem alike_valueOf (h : ∀ i, Json.Alike k (value i) (value' i)) (part : Part) :
    Json.Alike (k + 1) (b.valueOf value part) (b.valueOf value' part) := by
  cases part with
  | plain j => exact .refl _ j
  | list items => simp [valueOf, Json.Alike]
  | couples pairs => simp [valueOf, Json.Alike]
  | members pairs => exact .refl _ _
  | record pairs =>
    refine alike_objectOf ?_
    induction pairs with
    | nil => exact .nil
    | cons pair pairs ih =>
      obtain ⟨key, item⟩ := pair
      simp only [List.filterMap_cons]
      cases b.name? key with
      | none => exact ih
      | some name => exact .cons ⟨rfl, h item⟩ ih

theorem getD_values_succ (b : Built) (depth : Nat) (i : NodeId) :
    (b.values (depth + 1)).getD i .null = match b.parts.getD i none with
      | some part => b.valueOf (fun i => (b.values depth).getD i .null) part
      | none => .null := by
  simp only [values, Array.getD_eq_getD_getElem?, Array.getElem?_map]
  cases b.parts[i]? with
  | none => rfl
  | some part => cases part <;> rfl

/-- Down to a depth a document looks the same to whatever greater depths it is seen. -/
theorem alike_value (b : Built) {m n : Nat} (hm : k ≤ m) (hn : k ≤ n) :
    Json.Alike k (b.value m) (b.value n) := by
  have hnodes : ∀ i, Json.Alike k ((b.values m).getD i .null) ((b.values n).getD i .null) := by
    induction k generalizing m n with
    | zero => exact fun _ => trivial
    | succ k ih =>
      obtain ⟨m, rfl⟩ := Nat.exists_eq_add_of_le' hm
      obtain ⟨n, rfl⟩ := Nat.exists_eq_add_of_le' hn
      intro i
      rw [← Nat.add_assoc, ← Nat.add_assoc, getD_values_succ, getD_values_succ]
      cases b.parts.getD i none with
      | none => exact .refl _ _
      | some part => exact alike_valueOf (ih (by omega) (by omega)) part
  exact hnodes b.document.root

end Built

/-- Down to a depth the value of a text looks the same to whatever greater depths it is seen. -/
theorem read_alike {k m n : Nat} (hm : k ≤ m) (hn : k ≤ n) {cs : List Char} {j : Json}
    (h : read m cs = .ok j) : ∃ j', read n cs = .ok j' ∧ Json.Alike k j j' := by
  rw [read] at h ⊢
  cases hbuilt : built cs with
  | error fault =>
    rw [hbuilt] at h
    cases h
  | ok b =>
    rw [hbuilt] at h
    cases h
    exact ⟨_, rfl, b.alike_value hm hn⟩

end Yaml
end ReleaseNotes
