/-
How the steps of the reading end.

Each part of the reading of a text yields a value or ends with a fault.  So what is said of a step is
said of both: which faults it may end with, and, if it does not, what it yields and in which state it
leaves the reading.

Main statements:
* `Ends` — how a step without a state may end;
* `Leads` — from which states a step leads to which values and states;
* `Keeps` — a step that keeps what holds of the states.
-/
import ReleaseNotes.Yaml.Cursor

namespace ReleaseNotes
namespace Yaml

variable {α β σ : Type} {P P' : Fault → Prop}

/-! ### Steps without a state -/

/-- A step ends with such a value or with a fault of such a kind. -/
inductive Ends (P : Fault → Prop) (Q : α → Prop) : Except Fault α → Prop where
  | ok {a : α} (h : Q a) : Ends P Q (.ok a)
  | error {fault : Fault} (h : P fault) : Ends P Q (.error fault)

namespace Ends

variable {Q Q' : α → Prop} {R : β → Prop}

theorem bind {x : Except Fault α} {next : α → Except Fault β} (hx : Ends P Q x)
    (hnext : ∀ a, Q a → Ends P R (next a)) : Ends P R (x >>= next) := by
  cases hx with
  | ok ha => exact hnext _ ha
  | error hfault => exact .error hfault

theorem map {f : α → β} {x : Except Fault α} (hx : Ends P Q x) (h : ∀ a, Q a → R (f a)) :
    Ends P R (x.map f) := by
  cases hx with
  | ok ha => exact .ok (h _ ha)
  | error hfault => exact .error hfault

theorem mono {x : Except Fault α} (hx : Ends P Q x) (hfault : ∀ fault, P fault → P' fault)
    (hvalue : ∀ a, Q a → Q' a) : Ends P' Q' x := by
  cases hx with
  | ok ha => exact .ok (hvalue _ ha)
  | error h => exact .error (hfault _ h)

theorem mapM {read : α → Except Fault β} {items : List α}
    (h : ∀ a ∈ items, Ends P (fun _ => True) (read a)) :
    Ends P (fun bs => bs.length = items.length) (items.mapM read) := by
  induction items with
  | nil => exact .ok rfl
  | cons a items ih =>
    rw [List.mapM_cons]
    exact (h a List.mem_cons_self).bind fun _ _ =>
      (ih fun b hb => h b (List.mem_cons_of_mem _ hb)).bind fun _ hbs =>
        .ok (congrArg Nat.succ hbs)

end Ends

/-! ### Steps from state to state -/

/-- A step leads from such states to such values and states, or ends with a fault of such a kind. -/
def Leads (I : σ → Prop) (P : Fault → Prop) (Q : α → σ → Prop) (x : StateT σ (Except Fault) α) :
    Prop :=
  ∀ s, I s → Ends P (fun r => Q r.1 r.2) (x.run s)

/-- A step keeps what holds of the states and yields such values, or ends with a fault of such a
kind. -/
abbrev Keeps (I : σ → Prop) (P : Fault → Prop) (Q : α → Prop) (x : StateT σ (Except Fault) α) :
    Prop :=
  Leads I P (fun a s => Q a ∧ I s) x

section

variable {I J : σ → Prop} {Q Q' : α → σ → Prop} {R : β → σ → Prop}

namespace Leads

theorem pure {a : α} (h : ∀ s, I s → Q a s) : Leads I P Q (pure a) := fun s hs => .ok (h s hs)

theorem bind {x : StateT σ (Except Fault) α} {next : α → StateT σ (Except Fault) β}
    (hx : Leads I P Q x) (hnext : ∀ a, Leads (Q a) P R (next a)) : Leads I P R (x >>= next) := by
  intro s hs
  rw [StateT.run_bind]
  exact (hx s hs).bind fun r hr => hnext r.1 r.2 hr

/-- What is yielded may be told apart from the states behind it. -/
theorem seq {Q : α → Prop} {J : α → σ → Prop} {x : StateT σ (Except Fault) α}
    {next : α → StateT σ (Except Fault) β} (hx : Leads I P (fun a s => Q a ∧ J a s) x)
    (hnext : ∀ a, Q a → Leads (J a) P R (next a)) : Leads I P R (x >>= next) :=
  hx.bind fun a s hs => hnext a hs.1 s hs.2

theorem throw_of {fault : Fault} (h : ∀ s, I s → P fault) :
    Leads I P Q (throw fault : StateT σ (Except Fault) α) := fun s hs => .error (h s hs)

theorem throw {fault : Fault} (h : P fault) :
    Leads I P Q (throw fault : StateT σ (Except Fault) α) := throw_of fun _ _ => h

theorem modify {f : σ → σ} (h : ∀ s, I s → J (f s)) :
    Leads I P (fun _ => J) (modify f : StateT σ (Except Fault) Unit) := fun s hs => .ok (h s hs)

theorem of_imp {x : StateT σ (Except Fault) α} (hx : Leads I P Q x) (h : ∀ s, J s → I s) :
    Leads J P Q x := fun s hs => hx s (h s hs)

/-- What holds of a step from each single state holds of it from all. -/
theorem of_each {x : StateT σ (Except Fault) α} (h : ∀ s, I s → Leads (· = s) P Q x) :
    Leads I P Q x := fun s hs => h s hs s rfl

theorem mono {x : StateT σ (Except Fault) α} (hx : Leads I P Q x) (h : ∀ a s, Q a s → Q' a s) :
    Leads I P Q' x := fun s hs => (hx s hs).mono (fun _ => id) fun r => h r.1 r.2

end Leads

namespace Keeps

variable {Q : α → Prop} {S : β → Prop}

theorem pure {a : α} (ha : Q a) : Keeps I P Q (pure a) := Leads.pure fun _ hs => ⟨ha, hs⟩

/-- Behind a step that keeps the states, another one starts from the same. -/
theorem bind {x : StateT σ (Except Fault) α} {next : α → StateT σ (Except Fault) β}
    (hx : Keeps I P Q x) (hnext : ∀ a, Q a → Leads I P R (next a)) : Leads I P R (x >>= next) :=
  Leads.seq hx hnext

/-- The state that is looked up is one of those that hold. -/
theorem get : Keeps I P I (get : StateT σ (Except Fault) σ) := fun _ hs => .ok ⟨hs, hs⟩

theorem modify {f : σ → σ} (h : ∀ s, I s → I (f s)) :
    Keeps I P (fun _ => True) (modify f : StateT σ (Except Fault) Unit) :=
  fun s hs => .ok ⟨trivial, h s hs⟩

theorem lift {x : Except Fault α} (h : Ends P Q x) :
    Keeps I P Q (liftM x : StateT σ (Except Fault) α) := by
  intro s hs
  cases h with
  | ok ha => exact .ok ⟨ha, hs⟩
  | error hfault => exact .error hfault

theorem map {f : α → β} {x : StateT σ (Except Fault) α} (hx : Keeps I P Q x)
    (h : ∀ a, Q a → S (f a)) : Keeps I P S (f <$> x) := by
  rw [map_eq_pure_bind]
  exact hx.bind fun a ha => Keeps.pure (h a ha)

theorem forM {step : α → StateT σ (Except Fault) Unit} {items : List α}
    (h : ∀ a, Keeps I P (fun _ => True) (step a)) :
    Keeps I P (fun _ => True) (items.forM step) := by
  induction items with
  | nil => exact .pure trivial
  | cons a items ih => exact (h a).bind fun _ _ => ih

theorem mapM {step : α → StateT σ (Except Fault) β} {items : List α}
    (h : ∀ a, Keeps I P S (step a)) : Keeps I P (fun bs => ∀ b ∈ bs, S b) (items.mapM step) := by
  induction items with
  | nil => exact .pure nofun
  | cons a items ih =>
    rw [List.mapM_cons]
    exact (h a).bind fun b hb => ih.bind fun bs hbs =>
      Keeps.pure (List.forall_mem_cons.2 ⟨hb, hbs⟩)

end Keeps

end

end Yaml
end ReleaseNotes
