/-
Problems that can be sent.

A problem shows the value it was found at.  A check looks at parts of a value only, so that whatever
it finds wrong with a value that can be sent, it finds at a value that can be sent, and an answer can
hold all the problems.

Main statements:
* `Validated.IsSendable` — the values that the problems of an outcome show can be sent;
* `Check.IsSending` — so for every value that can be sent;
* `Release.isSending_check` — the check of a release;
* `Server.Body.exists_refusal` — the answer that tells the problems of a body.
-/
import ReleaseNotes.Release.Basic
import ReleaseNotes.Server.Body

namespace ReleaseNotes

variable {α β : Type}

theorem Json.isSendable_of_lookup {fields : Json.Fields} {name : Text} {j : Json}
    (h : (Json.obj fields).isSendable = true) (hj : Json.lookup name fields = some j) :
    j.isSendable = true := by
  induction fields with
  | nil => cases hj
  | cons f rest ih =>
    obtain ⟨key, v⟩ := f
    have h : (key.toChars?.isSome && v.isSendable && Json.fieldsAreSendable rest) = true := h
    rw [Bool.and_eq_true, Bool.and_eq_true] at h
    rw [Json.lookup] at hj
    split at hj
    · cases hj
      exact h.1.2
    · exact ih h.2 hj

namespace Validated

/-- The values that the problems of an outcome show can be sent. -/
def IsSendable (v : Validated α) : Prop :=
  ∀ problems, v = .bad problems → ∀ p ∈ problems, p.input.isSendable = true

theorem isSendable_ok (a : α) : (ok a).IsSendable := by
  rintro problems ⟨⟩

theorem isSendable_refuse (cause : Cause) {j : Json} (h : j.isSendable = true) :
    (Check.refuse cause j : Validated α).IsSendable := by
  rintro problems ⟨⟩ p hp
  rw [List.mem_singleton.1 hp]
  exact h

theorem IsSendable.map {v : Validated α} (h : v.IsSendable) (f : α → β) :
    (v.map f).IsSendable := by
  cases v with
  | ok a => exact isSendable_ok _
  | bad problems =>
    rintro problems ⟨⟩
    exact h _ rfl

theorem IsSendable.ap {v : Validated (α → β)} {w : Validated α} (hv : v.IsSendable)
    (hw : w.IsSendable) : (v.ap w).IsSendable := by
  cases v with
  | ok f =>
    cases w with
    | ok a => exact isSendable_ok _
    | bad q =>
      rintro problems ⟨⟩
      exact hw _ rfl
  | bad p =>
    cases w with
    | ok a =>
      rintro problems ⟨⟩
      exact hv _ rfl
    | bad q =>
      rintro problems ⟨⟩ x hx
      rcases List.mem_append.1 hx with hx | hx
      · exact hv _ rfl x hx
      · exact hw _ rfl x hx

theorem IsSendable.andThen {v : Validated α} (h : v.IsSendable) {f : α → Validated β}
    (hf : ∀ a, (f a).IsSendable) : (v.andThen f).IsSendable := by
  cases v with
  | ok a => exact hf a
  | bad problems =>
    rintro problems ⟨⟩
    exact h _ rfl

theorem IsSendable.under {v : Validated α} (h : v.IsSendable) (step : Step) :
    (v.under step).IsSendable := by
  cases v with
  | ok a => exact isSendable_ok _
  | bad problems =>
    rintro _ ⟨⟩ p hp
    obtain ⟨q, hq, rfl⟩ := List.mem_map.1 hp
    exact h _ rfl q hq

end Validated

namespace Check

open Validated

/-- Whatever a check finds wrong with a value that can be sent, it shows by values that can be
sent. -/
def IsSending (check : Check α) : Prop := ∀ j, j.isSendable = true → (check j).IsSendable

/-! ### Plain values -/

theorem isSending_text : IsSending text := by
  intro j hj
  cases j with
  | str t =>
    rw [text]
    split
    · exact isSendable_refuse _ hj
    · exact isSendable_ok _
  | _ => exact isSendable_refuse _ hj

theorem isSending_string : IsSending string := by
  intro j hj
  cases j with
  | str t =>
    rw [string]
    split
    · exact isSendable_ok _
    · exact isSendable_refuse _ hj
  | _ => exact isSendable_refuse _ hj

theorem isSending_stringOf (least : Nat) : IsSending (stringOf least) := by
  intro j hj
  refine (isSending_string j hj).andThen fun s => ?_
  split
  · exact isSendable_refuse _ hj
  · exact isSendable_ok _

theorem isSending_stringLike (pattern : String) (test : String → Bool) :
    IsSending (stringLike pattern test) := by
  intro j hj
  refine (isSending_string j hj).andThen fun s => ?_
  split
  · exact isSendable_ok _
  · exact isSendable_refuse _ hj

theorem isSending_boolean : IsSending boolean := by
  intro j hj
  unfold boolean
  -- every branch accepts the value or shows the value itself
  repeat' split
  all_goals first
    | exact isSendable_ok _
    | exact isSendable_refuse _ hj

theorem isSending_choice (word : α → String) (choices : List α) :
    IsSending (choice word choices) := by
  intro j hj
  unfold choice pick
  repeat' split
  all_goals first
    | exact isSendable_ok _
    | exact isSendable_refuse _ hj

theorem IsSending.nullable {check : Check α} (h : check.IsSending) : (nullable check).IsSending := by
  intro j hj
  cases j with
  | null => exact isSendable_ok _
  | _ => exact (h _ hj).map _

/-! ### Lists and objects -/

theorem IsSending.itemsFrom {check : Check α} (h : check.IsSending) {items : List Json}
    (hitems : Json.areSendable items = true) (i : Nat) :
    (Check.itemsFrom check i items).IsSendable := by
  induction items generalizing i with
  | nil => exact isSendable_ok _
  | cons j rest ih =>
    have hitems : (j.isSendable && Json.areSendable rest) = true := hitems
    rw [Bool.and_eq_true] at hitems
    exact (((h j hitems.1).under _).map _).ap (ih hitems.2 _)

theorem IsSending.list {check : Check α} (h : check.IsSending) : (list check).IsSending := by
  intro j hj
  cases j with
  | arr items => exact h.itemsFrom hj 0
  | _ => exact isSendable_refuse _ hj

theorem IsSending.nonEmptyList {check : Check α} (h : check.IsSending) :
    (nonEmptyList check).IsSending := by
  intro j hj
  refine (h.list j hj).andThen fun l => ?_
  cases l with
  | nil => exact isSendable_refuse _ hj
  | cons a rest => exact isSendable_ok _

theorem isSending_object (model : String) {read : Json.Fields → Validated α}
    (h : ∀ fields, (Json.obj fields).isSendable = true → (read fields).IsSendable) :
    (object model read).IsSending := by
  intro j hj
  cases j with
  | obj fields => exact h fields hj
  | _ => exact isSendable_refuse _ hj

section

variable {fields : Json.Fields} {check : Check α}

theorem IsSending.required (h : check.IsSending) (hfields : (Json.obj fields).isSendable = true)
    (name : String) : (required fields name check).IsSendable := by
  unfold Check.required
  split
  · next j hj => exact (h j (Json.isSendable_of_lookup hfields hj)).under _
  · rintro problems ⟨⟩ p hp
    rw [List.mem_singleton.1 hp]
    exact hfields

theorem IsSending.optional (h : check.IsSending) (hfields : (Json.obj fields).isSendable = true)
    (name : String) (default : α) : (optional fields name default check).IsSendable := by
  unfold Check.optional
  split
  · next j hj => exact (h j (Json.isSendable_of_lookup hfields hj)).under _
  · exact isSendable_ok _

end

end Check

/-! ### Releases -/

open Check

theorem Commit.isSending_check : Commit.check.IsSending := by
  refine isSending_object _ fun fields h => ?_
  exact ((((((isSending_stringOf 1).required h _).map _).ap (isSending_text.required h _)).ap
    (isSending_text.optional h _ _)).ap (isSending_text.required h _)).ap
    (isSending_text.optional h _ _) |>.ap (isSending_boolean.optional h _ _)

theorem Release.isSending_check : Release.check.IsSending := by
  refine isSending_object _ fun fields h => ?_
  have hkind : (nullable kindCheck).IsSending := (isSending_choice _ _).nullable
  exact (((((isSending_stringLike _ _).required h _).map _).ap
    (isSending_text.nullable.optional h _ _)).ap (hkind.optional h _ _)).ap
    (Commit.isSending_check.nonEmptyList.required h _) |>.ap
    ((isSending_stringOf 2).optional h _ _)

/-! ### Answers -/

namespace Json

theorem isSendable_text (s : String) : (text s).isSendable = true := by
  show (Text.ofString s).toChars?.isSome = true
  rw [Text.ofString, Text.ofChars, Text.toChars?_map_char]
  rfl

theorem areSendable_iff {items : List Json} :
    areSendable items = true ↔ ∀ j ∈ items, j.isSendable = true := by
  induction items with
  | nil => simp [areSendable]
  | cons j rest ih => simp [areSendable, ih]

theorem isSendable_record {fields : List (String × Json)}
    (h : ∀ f ∈ fields, f.2.isSendable = true) : (record fields).isSendable = true := by
  induction fields with
  | nil => rfl
  | cons f rest ih =>
    have hname : (Text.ofString f.1).toChars?.isSome = true := isSendable_text f.1
    have hrest := ih fun g hg => h g (List.mem_cons_of_mem _ hg)
    show ((Text.ofString f.1).toChars?.isSome && f.2.isSendable && (record rest).isSendable) = true
    rw [hname, h f List.mem_cons_self, hrest]
    rfl

end Json

namespace Server.Body

theorem isSendable_context (cause : Cause) : ∀ f ∈ context cause, f.2.isSendable = true := by
  intro f hf
  cases cause with
  | shortString _ | mismatch _ | notChoice _ | notLiteral _ | below _ | atOrBelow _ | above _
  | rule _ =>
    rw [List.mem_singleton.1 hf]
    first
      | exact Json.isSendable_text _
      | rfl
  | shortList _ _ | longList _ _ =>
    simp only [context, List.mem_cons, List.not_mem_nil, or_false] at hf
    rcases hf with rfl | rfl | rfl
    · exact Json.isSendable_text _
    · rfl
    · rfl
  | _ => cases hf

theorem isSendable_detail (code message : String) {place : List Json} {input : Json}
    {more : List (String × Json)} (hplace : ∀ j ∈ place, j.isSendable = true)
    (hinput : input.isSendable = true) (hmore : ∀ f ∈ more, f.2.isSendable = true) :
    (detail code place message input more).isSendable = true := by
  refine Json.isSendable_record fun f hf => ?_
  simp only [List.mem_append, List.mem_cons, List.not_mem_nil, or_false] at hf
  rcases hf with (rfl | rfl | rfl | rfl) | hf
  · exact Json.isSendable_text _
  · refine Json.areSendable_iff.2 fun j hj => ?_
    rcases List.mem_cons.1 hj with rfl | hj
    · exact Json.isSendable_text _
    · exact hplace j hj
  · exact Json.isSendable_text _
  · exact hinput
  · split at hf
    · cases hf
    · rw [List.mem_singleton.1 hf]
      exact Json.isSendable_record hmore

/-- A problem can be told if the value it shows can be sent. -/
theorem isSendable_ofProblem {p : Problem} (h : p.input.isSendable = true) :
    (ofProblem p).isSendable = true := by
  have hplace : ∀ j ∈ p.place.map stepJson, j.isSendable = true := by
    intro j hj
    obtain ⟨step, -, rfl⟩ := List.mem_map.1 hj
    cases step with
    | field name => exact Json.isSendable_text name
    | index i => rfl
  unfold ofProblem
  dsimp only
  split
  · exact isSendable_detail _ _ hplace h fun f hf => by cases hf
  · exact isSendable_detail _ _ hplace h (isSendable_context _)

theorem exists_refuse {details : List Json} (h : ∀ j ∈ details, j.isSendable = true) :
    ∃ a, refuse details = .ok a ∧ a.status = 422 :=
  ⟨_, if_pos (Json.areSendable_iff.2 h), rfl⟩

/-- A body that is not checked to be good is refused as bad input, if it keeps to the limits of the
reader and all that it holds can be sent. -/
theorem exists_refusal {c : Check α} (hc : c.IsSending) {r : Request}
    (hreadable : read r ≠ .error .unreadable) (hbody : ∀ j, read r = .ok j → j.isSendable = true)
    {answer : Except Failure Answer} (h : Body.check c r = .error answer) :
    ∃ a, answer = .ok a ∧ a.status = 422 := by
  unfold Body.check at h
  cases hread : read r with
  | error fault =>
    rw [hread] at h
    cases h
    cases fault with
    | absent =>
      refine exists_refuse fun j hj => ?_
      rw [List.mem_singleton.1 hj]
      exact isSendable_ofProblem rfl
    | malformed problem position =>
      refine exists_refuse fun j hj => ?_
      rw [List.mem_singleton.1 hj]
      refine isSendable_detail _ _ (fun j hj => ?_) rfl fun f hf => ?_
      · rw [List.mem_singleton.1 hj]
        rfl
      · rw [List.mem_singleton.1 hf]
        exact Json.isSendable_text _
    | unreadable => exact absurd hread hreadable
  | ok j =>
    rw [hread] at h
    dsimp only at h
    split at h
    · cases h
    · next problems hbad =>
      cases h
      refine exists_refuse fun d hd => ?_
      obtain ⟨p, hp, rfl⟩ := List.mem_map.1 hd
      exact isSendable_ofProblem (hc j (hbody j hread) problems hbad p hp)

end Server.Body
end ReleaseNotes
