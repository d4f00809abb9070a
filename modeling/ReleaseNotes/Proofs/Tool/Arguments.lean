/-
The arguments of a call.

A signature looks at each of its arguments by itself: at the value that a call gives it, or at its
default if the call gives none.  If all of them take a value, the checked arguments are just these
values, in the order of the declaration; whatever else the call gives is dropped.  If one of them
takes none, the problems of all of them are told, in the same order.

Main statements:
* `Argument.Takes`, `Argument.problems` — what one argument takes, and what is wrong with it;
* `Signature.Accepts`, `Signature.Rejects`, `Signature.problems` — the same for all arguments;
* `Argument.read_eq_ok`, `Argument.read_eq_bad` — one argument that is read;
* `Signature.check_eq_ok_iff`, `Signature.check_eq_bad_iff` — all arguments that are checked;
* `Signature.check_cases`, `Signature.Accepts.unique`, `Signature.Accepts.not_rejects` — a signature
  accepts a call in one way, or else rejects it.
-/
import Mathlib.Data.List.Forall2
import Mathlib.Tactic.Common
import ReleaseNotes.Tool.Signature

namespace ReleaseNotes

/-! ### One argument -/

namespace Argument

/-- An argument takes a value: the one that is given for it, checked, or its default if none is
given. -/
def Takes (given : Json.Fields) (a : Argument) (v : Json) : Prop :=
  match Json.lookup a.name given with
  | some j => a.kind.check j = .ok v
  | none => a.default = some v

/-- What is wrong with what is given for an argument. -/
def problems (given : Json.Fields) (a : Argument) : List Problem :=
  match Json.lookup a.name given with
  | some j => match a.kind.check j with
    | .ok _ => []
    | .bad problems => problems.map (Problem.under (.field a.name))
  | none => if a.default.isSome then [] else [⟨[.field a.name], .missing, .obj given⟩]

variable {given : Json.Fields} {a : Argument} {v : Json}

theorem read_eq_ok (h : a.Takes given v) :
    a.read given = .ok (Text.ofString a.name, v) ∧ a.problems given = [] := by
  unfold Takes at h
  unfold problems
  cases hgiven : Json.lookup a.name given with
  | some j =>
    rw [hgiven] at h
    dsimp only at h ⊢
    rw [h]
    refine ⟨?_, rfl⟩
    cases hdefault : a.default with
    | some d => simp only [read, hdefault, Check.optional_eq_ok hgiven h]; rfl
    | none => simp only [read, hdefault, Check.required_eq_ok hgiven h]; rfl
  | none =>
    rw [hgiven] at h
    dsimp only at h ⊢
    rw [h]
    refine ⟨?_, rfl⟩
    simp only [read, h, Check.optional, hgiven]
    rfl

theorem read_eq_bad (h : ∀ v, ¬ a.Takes given v) : a.read given = .bad (a.problems given) := by
  unfold Takes at h
  unfold problems
  cases hgiven : Json.lookup a.name given with
  | some j =>
    rw [hgiven] at h
    dsimp only at h ⊢
    cases hcheck : a.kind.check j with
    | ok v => exact absurd hcheck (h v)
    | bad problems =>
      cases hdefault : a.default with
      | some d =>
        simp only [read, hdefault, Check.optional, hgiven, hcheck]
        rfl
      | none =>
        simp only [read, hdefault, Check.required, hgiven, hcheck]
        rfl
  | none =>
    rw [hgiven] at h
    dsimp only at h ⊢
    cases hdefault : a.default with
    | some d => exact absurd hdefault (h d)
    | none =>
      simp only [read, hdefault, Check.required, hgiven]
      rfl

end Argument

/-! ### All arguments -/

namespace Signature

/-- A signature accepts a call with these checked arguments: each argument takes a value, and stands
among them with its name, in the order of the declaration. -/
def Accepts (s : Signature) (given fields : Json.Fields) : Prop :=
  List.Forall₂ (fun a f => f.1 = Text.ofString a.name ∧ a.Takes given f.2) s.arguments fields

/-- A signature rejects a call: one of its arguments takes no value. -/
def Rejects (s : Signature) (given : Json.Fields) : Prop :=
  ∃ a ∈ s.arguments, ∀ v, ¬ a.Takes given v

/-- All that is wrong with the arguments of a call, in the order of the declaration. -/
def problems (s : Signature) (given : Json.Fields) : List Problem :=
  s.arguments.flatMap (Argument.problems given)

variable {given fields : Json.Fields}

theorem readAll_eq_ok {l : List Argument}
    (h : List.Forall₂ (fun a f => f.1 = Text.ofString a.name ∧ a.Takes given f.2) l fields) :
    readAll given l = .ok fields ∧ l.flatMap (Argument.problems given) = [] := by
  induction h with
  | nil => exact ⟨rfl, rfl⟩
  | @cons a f l fields hf _ ih =>
    obtain ⟨name, v⟩ := f
    obtain ⟨rfl, htakes⟩ := hf
    obtain ⟨hread, hproblems⟩ := Argument.read_eq_ok htakes
    rw [readAll, hread, ih.1, List.flatMap_cons, hproblems, ih.2]
    exact ⟨rfl, rfl⟩

/-- Arguments of which each takes a value are accepted. -/
theorem exists_forall₂_takes {l : List Argument} (h : ∀ a ∈ l, ∃ v, a.Takes given v) :
    ∃ fields : Json.Fields,
      List.Forall₂ (fun a f => f.1 = Text.ofString a.name ∧ a.Takes given f.2) l fields := by
  induction l with
  | nil => exact ⟨[], .nil⟩
  | cons a l ih =>
    obtain ⟨v, hv⟩ := h a List.mem_cons_self
    obtain ⟨fields, hfields⟩ := ih fun b hb => h b (List.mem_cons_of_mem _ hb)
    exact ⟨(Text.ofString a.name, v) :: fields, .cons ⟨rfl, hv⟩ hfields⟩

theorem readAll_eq_bad {l : List Argument} (h : ∃ a ∈ l, ∀ v, ¬ a.Takes given v) :
    readAll given l = .bad (l.flatMap (Argument.problems given)) := by
  induction l with
  | nil =>
    obtain ⟨a, ha, -⟩ := h
    cases ha
  | cons a l ih =>
    rw [readAll, List.flatMap_cons]
    by_cases hrest : ∃ b ∈ l, ∀ v, ¬ b.Takes given v
    · rw [ih hrest]
      by_cases ha : ∃ v, a.Takes given v
      · obtain ⟨v, hv⟩ := ha
        obtain ⟨hread, hproblems⟩ := Argument.read_eq_ok hv
        rw [hread, hproblems]
        rfl
      · rw [Argument.read_eq_bad (not_exists.1 ha)]
        rfl
    · -- then the first argument is the one that takes none
      have htakes : ∀ b ∈ l, ∃ v, b.Takes given v := by
        simpa only [not_exists, not_and, not_forall, not_not] using hrest
      obtain ⟨fields, hfields⟩ := exists_forall₂_takes htakes
      obtain ⟨hread, hproblems⟩ := readAll_eq_ok hfields
      have ha : ∀ v, ¬ a.Takes given v := by
        obtain ⟨b, hb, hnone⟩ := h
        rcases List.mem_cons.1 hb with rfl | hb
        · exact hnone
        · exact absurd ⟨b, hb, hnone⟩ hrest
      rw [Argument.read_eq_bad ha, hread, hproblems, List.append_nil]
      rfl

/-- A signature accepts a call and passes on what its arguments take, or rejects it and tells what is
wrong with them. -/
theorem check_cases (s : Signature) (given : Json.Fields) :
    (∃ fields, s.Accepts given fields ∧ s.check (.obj given) = .ok fields) ∨
      s.Rejects given ∧ s.check (.obj given) = .bad (s.problems given) := by
  by_cases hrejects : s.Rejects given
  · exact .inr ⟨hrejects, readAll_eq_bad hrejects⟩
  · have htakes : ∀ a ∈ s.arguments, ∃ v, a.Takes given v := by
      simpa only [Rejects, not_exists, not_and, not_forall, not_not] using hrejects
    obtain ⟨fields, haccepts⟩ := exists_forall₂_takes htakes
    exact .inl ⟨fields, haccepts, (readAll_eq_ok haccepts).1⟩

theorem check_eq_ok_iff (s : Signature) :
    s.check (.obj given) = .ok fields ↔ s.Accepts given fields := by
  refine ⟨fun h => ?_, fun haccepts => (readAll_eq_ok haccepts).1⟩
  rcases s.check_cases given with ⟨taken, haccepts, hcheck⟩ | ⟨-, hcheck⟩
  · rw [hcheck] at h
    cases h
    exact haccepts
  · rw [hcheck] at h
    cases h

theorem check_eq_bad_iff (s : Signature) {told : List Problem} :
    s.check (.obj given) = .bad told ↔ s.Rejects given ∧ told = s.problems given := by
  constructor
  · intro h
    rcases s.check_cases given with ⟨taken, -, hcheck⟩ | ⟨hrejects, hcheck⟩
    · rw [hcheck] at h
      cases h
    · rw [hcheck] at h
      cases h
      exact ⟨hrejects, rfl⟩
  · rintro ⟨hrejects, rfl⟩
    exact readAll_eq_bad hrejects

/-- The checked arguments of a call that is accepted are determined by it. -/
theorem Accepts.unique {s : Signature} {others : Json.Fields} (h : s.Accepts given fields)
    (hothers : s.Accepts given others) : others = fields := by
  have heq := ((check_eq_ok_iff s).2 hothers).symm.trans ((check_eq_ok_iff s).2 h)
  cases heq
  rfl

/-- No call is both accepted and rejected. -/
theorem Accepts.not_rejects {s : Signature} (h : s.Accepts given fields) : ¬ s.Rejects given := by
  intro hrejects
  have hbad := (check_eq_bad_iff s).2 ⟨hrejects, rfl⟩
  rw [(check_eq_ok_iff s).2 h] at hbad
  cases hbad

end Signature
end ReleaseNotes
