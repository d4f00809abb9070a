/-
Values without bytes.

A text keeps a byte that could not be decoded as a unit of its own.  The reader of values makes no
such units: what it reads from a text without them has none in its texts either.  So a value that is
read from a string is made of characters and lone halves only.

Main statements:
* `Json.IsFreeOfBytes` — no text of a value has such a unit;
* `Json.isFreeOfBytes_of_lookup` — the fields of such an object;
* `Json.Reader.isFreeOfBytes_parts` — the parts of the reader;
* `Json.isFreeOfBytes_of_decodeMarked` — a whole string.
-/
import ReleaseNotes.Json.Sendable
import ReleaseNotes.Proofs.Json.Limits

namespace ReleaseNotes

namespace Text

theorem hasByte_cons {u : TextUnit} {t : Text} :
    hasByte (u :: t) = false ↔ u.isByte = false ∧ hasByte t = false := by
  simp [hasByte]

theorem hasByte_of_suffix {s t : Text} (ht : t.hasByte = false) (h : s <:+ t) :
    s.hasByte = false := by
  rw [hasByte, List.any_eq_false] at ht ⊢
  exact fun u hu => ht u (h.mem hu)

theorem hasByte_reverse {t : Text} : hasByte t.reverse = hasByte t := List.any_reverse

end Text

namespace Json

/-- No text of a value has a byte that could not be decoded. -/
def IsFreeOfBytes (j : Json) : Prop := ∀ t ∈ j.texts, t.hasByte = false

/-- The same for fields. -/
def AreFreeOfBytes (fields : Fields) : Prop := ∀ t ∈ textsOfFields fields, t.hasByte = false

theorem isFreeOfBytes_of_lookup {fields : Fields} {name : Text} {j : Json}
    (h : AreFreeOfBytes fields) (hj : lookup name fields = some j) : j.IsFreeOfBytes := by
  induction fields with
  | nil => cases hj
  | cons f rest ih =>
    obtain ⟨key, v⟩ := f
    rw [lookup] at hj
    split at hj
    · cases hj
      exact fun t ht => h t (List.mem_append_left _ ht)
    · exact ih (fun t ht => h t (List.mem_append_right _ ht)) hj

theorem areFreeOfBytes_put {fields : Fields} {name : Text} {v : Json}
    (hfields : AreFreeOfBytes fields) (hv : v.IsFreeOfBytes) :
    AreFreeOfBytes (put name v fields) := by
  induction fields with
  | nil =>
    intro t ht
    rcases List.mem_append.1 ht with ht | ht
    · exact hv t ht
    · cases ht
  | cons f rest ih =>
    obtain ⟨key, old⟩ := f
    have hrest : AreFreeOfBytes rest := fun t ht => hfields t (List.mem_append_right _ ht)
    rw [put]
    split
    · intro t ht
      rcases List.mem_append.1 ht with ht | ht
      · exact hv t ht
      · exact hrest t ht
    · intro t ht
      rcases List.mem_append.1 ht with ht | ht
      · exact hfields t (List.mem_append_left _ ht)
      · exact ih hrest t ht

namespace Reader

theorem isByte_unitOfCode (n : Nat) : (unitOfCode n).isByte = false := by
  unfold unitOfCode
  split <;> rfl

theorem hasByte_push {read : Text} {u : TextUnit} (hread : read.hasByte = false)
    (hu : u.isByte = false) : (push read u).hasByte = false := by
  unfold push
  split
  · next low high before =>
    split
    · exact Text.hasByte_cons.2 ⟨rfl, (Text.hasByte_cons.1 hread).2⟩
    · exact Text.hasByte_cons.2 ⟨hu, hread⟩
  · exact Text.hasByte_cons.2 ⟨hu, hread⟩

theorem hasByte_stringBody {start read t s rest : Text} {coded : Bool}
    (hread : read.hasByte = false) (ht : t.hasByte = false)
    (h : stringBody start read coded t = .ok (s, rest)) : s.hasByte = false := by
  -- the units that were read are kept in front; an escape adds a character or a lone half
  fun_induction stringBody start read coded t with
  | case1 | case3 | case5 | case6 | case8 | case9 => cases h
  | case2 =>
    cases h
    rw [Text.hasByte_reverse]
    exact hread
  | case4 read coded a b c d e rest n hcode u ih =>
    refine ih ?_ (Text.hasByte_of_suffix ht ⟨[_, _, _, _, _, _], rfl⟩) h
    split
    · exact hasByte_push hread (isByte_unitOfCode n)
    · exact Text.hasByte_cons.2 ⟨isByte_unitOfCode n, hread⟩
  | case7 read coded u rest _ _ c hescaped ih =>
    exact ih (Text.hasByte_cons.2 ⟨rfl, hread⟩) (Text.hasByte_of_suffix ht ⟨[_, _], rfl⟩) h
  | case10 read coded u rest _ _ _ _ _ hprintable ih =>
    obtain ⟨hu, hrest⟩ := Text.hasByte_cons.1 ht
    exact ih (Text.hasByte_cons.2 ⟨hu, hread⟩) hrest h

theorem isFreeOfBytes_scalar {t rest : Text} {v : Json} (h : scalar t = .ok (v, rest)) :
    v.IsFreeOfBytes := by
  have htexts : v.texts = [] := by
    unfold scalar at h
    split at h
    · next found hfound =>
      cases h
      obtain ⟨⟨word, w⟩, hmem, hword⟩ := List.exists_of_findSome?_eq_some hfound
      obtain ⟨behind, -, hbehind⟩ := Option.map_eq_some_iff.1 hword
      cases hbehind
      have hall : ∀ p ∈ words, p.2.texts = [] := by simp [words, texts]
      exact hall _ hmem
    · split at h
      · next n behind hnumber =>
        unfold Number.value at h
        split at h
        · split at h <;> cases h
          rfl
        · cases h
          rfl
      · cases h
  intro s hs
  rw [htexts] at hs
  cases hs

/-- What a part of the reader makes of a text without bytes holds none, and what it leaves has
none. -/
def Keeps {α : Type} (holds : α → Prop) (t : Text) (x : Except Fault (α × Text)) : Prop :=
  t.hasByte = false → ∀ a rest, x = .ok (a, rest) → holds a ∧ rest.hasByte = false

theorem Keeps.of_suffix {α : Type} {holds : α → Prop} {s t : Text} {x : Except Fault (α × Text)}
    (h : Keeps holds s x) (hs : s <:+ t) : Keeps holds t x :=
  fun ht => h (Text.hasByte_of_suffix ht hs)

theorem Keeps.bind {α β : Type} {holds : α → Prop} {holds' : β → Prop} {t : Text}
    {x : Except Fault (α × Text)} {f : α × Text → Except Fault (β × Text)} (hx : Keeps holds t x)
    (hf : ∀ a rest, holds a → Keeps holds' rest (f (a, rest))) : Keeps holds' t (x >>= f) := by
  intro ht b behind h
  cases x with
  | error fault => cases h
  | ok r =>
    obtain ⟨ha, hrest⟩ := hx ht r.1 r.2 rfl
    exact hf r.1 r.2 ha hrest b behind h

theorem Keeps.ok {α : Type} {holds : α → Prop} {t rest : Text} {a : α} (ha : holds a)
    (hrest : rest <:+ t) : Keeps holds t (.ok (a, rest)) := by
  rintro ht b behind ⟨⟩
  exact ⟨ha, Text.hasByte_of_suffix ht hrest⟩

theorem Keeps.error {α : Type} {holds : α → Prop} {t : Text} {fault : Fault} :
    Keeps holds t (.error fault) := by
  rintro - a rest ⟨⟩

theorem keeps_stringBody (start : Text) (coded : Bool) (t : Text) :
    Keeps (fun s : Text => s.hasByte = false) t (stringBody start [] coded t) := by
  intro ht s rest h
  have hconfined : Confined 0 t (stringBody start [] coded t) := confined_stringBody _ _ _ _
  rw [h] at hconfined
  exact ⟨hasByte_stringBody rfl ht h, Text.hasByte_of_suffix ht hconfined⟩

theorem keeps_scalar (t : Text) : Keeps IsFreeOfBytes t (scalar t) := by
  intro ht v rest h
  have hconfined : Confined 0 t (scalar t) := confined_scalar t
  rw [h] at hconfined
  exact ⟨isFreeOfBytes_scalar h, Text.hasByte_of_suffix ht hconfined⟩

/-- The parts of the reader hold no bytes, by induction on the steps that are left. -/
theorem isFreeOfBytes_parts (fuel : Nat) :
    (∀ depth t, Keeps IsFreeOfBytes t (value fuel depth t)) ∧
      (∀ depth t, Keeps (fun vs => IsFreeOfBytes (.arr vs)) t (items fuel depth t)) ∧
      ∀ depth read t, AreFreeOfBytes read →
        Keeps AreFreeOfBytes t (fields fuel depth read t) := by
  induction fuel with
  | zero => exact ⟨fun _ _ => .error, fun _ _ => .error, fun _ _ _ _ => .error⟩
  | succ fuel ih =>
    obtain ⟨hvalue, hitems, hfields⟩ := ih
    refine ⟨fun depth t => ?_, fun depth t => ?_, fun depth read t hread => ?_⟩
    · unfold value
      split
      · refine ((keeps_stringBody _ _ _).of_suffix (List.suffix_cons _ _)).bind fun s rest hs => ?_
        refine .ok (fun u hu => ?_) List.suffix_rfl
        rw [List.mem_singleton.1 hu]
        exact hs
      · exact .error
      · split
        · next h =>
          exact .ok (fun u hu => by cases hu) ((List.suffix_cons _ _).trans
            ((suffix_of_skip_eq h).trans (List.suffix_cons _ _)))
        · refine (Keeps.bind (hfields _ _ _ fun u hu => by cases hu) ?_).of_suffix
            ((skip_suffix _).trans (List.suffix_cons _ _))
          exact fun fields rest h => .ok h List.suffix_rfl
      · exact .error
      · split
        · next h =>
          exact .ok (fun u hu => by cases hu) ((List.suffix_cons _ _).trans
            ((suffix_of_skip_eq h).trans (List.suffix_cons _ _)))
        · refine (Keeps.bind (hitems _ _) ?_).of_suffix
            ((skip_suffix _).trans (List.suffix_cons _ _))
          exact fun items rest h => .ok h List.suffix_rfl
      · exact keeps_scalar _
    · unfold items
      refine (hvalue depth t).bind fun v rest hv => ?_
      dsimp only
      split
      · next h =>
        refine .ok (fun s hs => ?_) ((List.suffix_cons _ _).trans (suffix_of_skip_eq h))
        rcases List.mem_append.1 hs with hs | hs
        · exact hv s hs
        · cases hs
      · next rest' h =>
        have hrest : skip rest' <:+ rest :=
          (skip_suffix _).trans ((List.suffix_cons _ _).trans (suffix_of_skip_eq h))
        refine (Keeps.bind (hitems depth _) fun vs behind hvs => ?_).of_suffix hrest
        refine .ok (fun s hs => ?_) List.suffix_rfl
        rcases List.mem_append.1 hs with hs | hs
        · exact hv s hs
        · exact hvs s hs
      · exact .error
    · unfold fields
      split
      · refine ((keeps_stringBody _ _ _).of_suffix (List.suffix_cons _ _)).bind ?_
        intro name rest _
        dsimp only
        split
        · next rest' h =>
          have hrest : skip rest' <:+ rest :=
            (skip_suffix _).trans ((List.suffix_cons _ _).trans (suffix_of_skip_eq h))
          refine (Keeps.bind (hvalue depth _) fun v behind hv => ?_).of_suffix hrest
          dsimp only
          split
          · next h =>
            exact .ok (areFreeOfBytes_put hread hv)
              ((List.suffix_cons _ _).trans (suffix_of_skip_eq h))
          · next behind' h =>
            have hbehind : skip behind' <:+ behind :=
              (skip_suffix _).trans ((List.suffix_cons _ _).trans (suffix_of_skip_eq h))
            exact (hfields depth _ _ (areFreeOfBytes_put hread hv)).of_suffix hbehind
          · exact .error
        · exact .error
      · exact .error

theorem isFreeOfBytes_of_document {t : Text} {j : Json} (ht : t.hasByte = false)
    (h : document t = .ok j) : j.IsFreeOfBytes := by
  unfold document at h
  cases hread : value (2 * t.length + 2) maxDepth (skip t) with
  | error fault =>
    rw [hread] at h
    cases h
  | ok r =>
    obtain ⟨v, rest⟩ := r
    have hskip : (skip t).hasByte = false := Text.hasByte_of_suffix ht (skip_suffix t)
    have hv := ((isFreeOfBytes_parts _).1 maxDepth (skip t) hskip v rest hread).1
    rw [hread] at h
    dsimp only [bind, Except.bind] at h
    split at h
    · cases h
      exact hv
    · cases h

end Reader

/-- What is read from a text without bytes, with or without a byte order mark, holds no bytes. -/
theorem isFreeOfBytes_of_decodeMarked {t : Text} {j : Json} (ht : t.hasByte = false)
    (h : decodeMarked t = .ok j) : j.IsFreeOfBytes := by
  unfold decodeMarked at h
  have hdocument : ∀ {s : Text}, s.hasByte = false →
      (Reader.document s).mapError (Reader.Fault.locate s) = .ok j → j.IsFreeOfBytes := by
    intro s hs h
    cases hread : Reader.document s with
    | error fault =>
      rw [hread] at h
      cases h
    | ok v =>
      rw [hread] at h
      cases h
      exact Reader.isFreeOfBytes_of_document hs hread
  split at h
  · exact hdocument (Text.hasByte_cons.1 ht).2 h
  · exact hdocument ht h

end Json
end ReleaseNotes
