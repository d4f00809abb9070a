/-
Places in a value.

A path of names leads to a part of a value.  Two values may look alike down to a depth; then so do
their parts at the end of a path, down to the depth that is left there.  Two values may also be the
same but for the order of fields; then so are their parts.

Main statements:
* `Json.at?` — the value at the end of a path;
* `Json.Resembles` — values that are the same, or both a list, or both an object;
* `Json.Alike` — values that look alike down to a depth;
* `Json.Reordered` — values that are the same but for the order of fields;
* `Json.Alike.at?`, `Json.Reordered.at?` — what stands at the end of a path.
-/
import Mathlib.Data.List.Forall2
import Mathlib.Data.Option.Defs
import Mathlib.Tactic.Common
import ReleaseNotes.Json.Basic

theorem Option.Rel.imp {α β : Type} {R S : α → β → Prop} (h : ∀ a b, R a b → S a b)
    {o : Option α} {o' : Option β} : Option.Rel R o o' → Option.Rel S o o'
  | .some hab => .some (h _ _ hab)
  | .none => .none

namespace ReleaseNotes
namespace Json

/-- The value at the end of a path of names. -/
def at? (path : List String) (j : Json) : Option Json :=
  path.foldl (fun given name => given.bind fun j => j.field? name) (some j)

/-- A relation that passes on to the fields passes on to the ends of paths. -/
theorem rel_at? {R : Nat → Json → Json → Prop}
    (hfield : ∀ {k j j'}, R (k + 1) j j' → ∀ name,
      Option.Rel (R k) (j.field? name) (j'.field? name))
    {k : Nat} {path : List String} {j j' : Json} (h : R (k + path.length) j j') :
    Option.Rel (R k) (j.at? path) (j'.at? path) := by
  have hgiven : ∀ given given' : Option Json, Option.Rel (R (k + path.length)) given given' →
      Option.Rel (R k) (path.foldl (fun given name => given.bind fun j => j.field? name) given)
        (path.foldl (fun given name => given.bind fun j => j.field? name) given') := by
    clear h
    induction path with
    | nil => exact fun _ _ hgiven => hgiven
    | cons name path ih =>
      intro given given' hgiven
      refine ih _ _ ?_
      cases hgiven with
      | none => exact .none
      | some hpart => exact hfield hpart name
  exact hgiven _ _ (.some h)

/-- Two values are the same, or both are lists, or both are objects. -/
def Resembles : Json → Json → Prop
  | .arr _, .arr _ => True
  | .obj _, .obj _ => True
  | j, j' => j = j'

theorem Resembles.refl (j : Json) : Resembles j j := by
  cases j with
  | arr _ => trivial
  | obj _ => trivial
  | _ => rfl

/-! ### Values that look alike -/

/-- Two values look alike down to a depth: objects have the same names, with values that look alike
down to one level less, lists have the same length, and other values are equal. -/
def Alike : Nat → Json → Json → Prop
  | 0, _, _ => True
  | k + 1, j, j' => match j, j' with
    | .arr items, .arr others => items.length = others.length
    | .obj fields, .obj others =>
      List.Forall₂ (fun f g => f.1 = g.1 ∧ Alike k f.2 g.2) fields others
    | j, j' => j = j'

/-- Fields with the same names and with values that look alike down to a depth. -/
abbrev AlikeFields (k : Nat) : Fields → Fields → Prop :=
  List.Forall₂ fun f g => f.1 = g.1 ∧ Alike k f.2 g.2

namespace Alike

variable {k : Nat} {j j' : Json}

theorem refl (k : Nat) (j : Json) : Alike k j j := by
  induction k generalizing j with
  | zero => trivial
  | succ k ih =>
    cases j with
    | arr items => rfl
    | obj fields => exact List.forall₂_same.2 fun f _ => ⟨rfl, ih f.2⟩
    | _ => rfl

/-- Values that look alike are two lists, two objects, or one and the same. -/
theorem cases_of_succ (h : Alike (k + 1) j j') :
    (∃ items others, j = .arr items ∧ j' = .arr others ∧ items.length = others.length) ∨
      (∃ fields others, j = .obj fields ∧ j' = .obj others ∧ AlikeFields k fields others) ∨
        j = j' := by
  cases j with
  | arr items =>
    cases j' with
    | arr others => exact .inl ⟨items, others, rfl, rfl, h⟩
    | _ => cases h
  | obj fields =>
    cases j' with
    | obj others => exact .inr (.inl ⟨fields, others, rfl, rfl, h⟩)
    | _ => cases h
  | _ => exact .inr (.inr (by cases j' <;> exact h))

end Alike

theorem AlikeFields.lookup {k : Nat} {fields others : Fields} (h : AlikeFields k fields others)
    (name : Text) : Option.Rel (Alike k) (lookup name fields) (lookup name others) := by
  induction h with
  | nil => exact .none
  | @cons f g fields others hfg _ ih =>
    obtain ⟨key, v⟩ := f
    obtain ⟨key', w⟩ := g
    obtain ⟨rfl, hvalue⟩ := hfg
    rw [Json.lookup, Json.lookup]
    split
    · exact .some hvalue
    · exact ih

theorem AlikeFields.put {k : Nat} {fields others : Fields} (h : AlikeFields k fields others)
    {v w : Json} (hvalue : Alike k v w) (name : Text) :
    AlikeFields k (put name v fields) (put name w others) := by
  induction h with
  | nil => exact .cons ⟨rfl, hvalue⟩ .nil
  | @cons f g fields others hfg hrest ih =>
    obtain ⟨key, v'⟩ := f
    obtain ⟨key', w'⟩ := g
    obtain ⟨rfl, hold⟩ := hfg
    rw [Json.put, Json.put]
    split
    · exact .cons ⟨rfl, hvalue⟩ hrest
    · exact .cons ⟨rfl, hold⟩ ih

theorem Alike.field? {k : Nat} {j j' : Json} (h : Alike (k + 1) j j') (name : String) :
    Option.Rel (Alike k) (j.field? name) (j'.field? name) := by
  rcases h.cases_of_succ with ⟨_, _, rfl, rfl, -⟩ | ⟨_, _, rfl, rfl, hfields⟩ | rfl
  · exact .none
  · exact hfields.lookup name
  · cases j.field? name with
    | none => exact .none
    | some part => exact .some (Alike.refl k part)

/-- What stands at a path looks alike down to the depth that is left there. -/
theorem Alike.at? {k : Nat} {path : List String} {j j' : Json} (h : Alike (k + path.length) j j') :
    Option.Rel (Alike k) (j.at? path) (j'.at? path) :=
  rel_at? Alike.field? h

theorem Alike.resembles {k : Nat} {j j' : Json} (h : Alike (k + 1) j j') : Resembles j j' := by
  rcases h.cases_of_succ with ⟨_, _, rfl, rfl, -⟩ | ⟨_, _, rfl, rfl, -⟩ | rfl
  · trivial
  · trivial
  · exact .refl j

/-- What stands above the depth resembles what stands at the same place. -/
theorem Alike.resembles_at? {depth : Nat} {path : List String} {j j' : Json}
    (h : Alike depth j j') (hpath : path.length < depth) :
    Option.Rel Resembles (j.at? path) (j'.at? path) := by
  obtain ⟨k, rfl⟩ := Nat.exists_eq_add_of_lt hpath
  rw [show path.length + k + 1 = k + 1 + path.length by omega] at h
  exact h.at?.imp fun _ _ => resembles

/-! ### The order of fields -/

/-- Two values are the same but for the order in which objects have their fields. -/
inductive Reordered : Json → Json → Prop where
  | refl (j : Json) : Reordered j j
  | obj {fields others : Fields}
      (h : ∀ name, Option.Rel Reordered (lookup name fields) (lookup name others)) :
      Reordered (.obj fields) (.obj others)

namespace Reordered

variable {j j' : Json}

theorem field? (h : Reordered j j') (name : String) :
    Option.Rel Reordered (j.field? name) (j'.field? name) := by
  cases h with
  | refl =>
    cases j.field? name with
    | none => exact .none
    | some part => exact .some (.refl part)
  | obj h => exact h name

theorem at? {path : List String} (h : Reordered j j') :
    Option.Rel Reordered (j.at? path) (j'.at? path) :=
  rel_at? (R := fun _ => Reordered) (k := 0) field? h

theorem resembles (h : Reordered j j') : Resembles j j' := by
  cases h with
  | refl => exact .refl j
  | obj _ => trivial

theorem resembles_at? {path : List String} (h : Reordered j j') :
    Option.Rel Resembles (j.at? path) (j'.at? path) :=
  h.at?.imp fun _ _ => resembles

/-- An object whose names are distinct may have its fields in any order. -/
theorem of_perm {fields others : Fields} (h : fields.Perm others)
    (hnames : (fields.map Prod.fst).Nodup) : Reordered (.obj fields) (.obj others) := by
  refine .obj fun name => ?_
  have hsame : lookup name fields = lookup name others := by
    induction h with
    | nil => rfl
    | cons f _ ih => simp only [lookup, ih (List.nodup_cons.1 hnames).2]
    | swap f g fields =>
      obtain ⟨key, v⟩ := f
      obtain ⟨key', w⟩ := g
      have hne : key' ≠ key := by simp_all
      simp only [lookup]
      by_cases hkey : key = name
      · have hother : key' ≠ name := fun heq => hne (heq.trans hkey.symm)
        simp only [hkey, hother, if_true, if_false]
      · simp only [hkey, if_false]
    | trans hfirst _ ih ih' => exact (ih hnames).trans (ih' ((hfirst.map _).nodup_iff.1 hnames))
  rw [hsame]
  cases lookup name others with
  | none => exact .none
  | some v => exact .some (.refl v)

end Reordered

end Json

end ReleaseNotes
