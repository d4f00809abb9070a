/-
The limits of the reader.

Besides a text that is no JSON there are two reasons why the reader gives up, and both lie in the
text: it holds more digits in a row than a numeral may have, or it opens more arrays and objects
than may be nested.

Main statements:
* `Reader.Confined` — a reader keeps to its text, and gives up for these reasons only;
* `Reader.confined_stringBody`, `Reader.confined_scalar`, `Reader.confined_parts` — the parts of the
  reader;
* `decode_eq_tooManyDigits`, `decode_eq_tooDeep` — a whole text;
* `decode_ones` — a text that is refused for its digits.
-/
import ReleaseNotes.Proofs.Json.Reading

namespace ReleaseNotes
namespace Json

/-- Whether a unit may open an array or an object. -/
def isOpening (u : TextUnit) : Bool := u == .char '{' || u == .char '['

/-- How many arrays and objects a text may open. -/
def openings (t : Text) : Nat := t.countP isOpening

/-- So many digits stand in a row somewhere in a text. -/
def HasDigits (t : Text) (n : Nat) : Prop :=
  ∃ rest : Text, rest <:+ t ∧ (rest.charsWhile Char.isDigit).length = n

theorem openings_le {s t : Text} (h : s <:+ t) : openings s ≤ openings t :=
  h.sublist.countP_le

theorem openings_cons {u : TextUnit} {t : Text} (hu : isOpening u = true) :
    openings (u :: t) = openings t + 1 := List.countP_cons_of_pos hu

theorem HasDigits.of_suffix {s t : Text} {n : Nat} (h : HasDigits s n) (hs : s <:+ t) :
    HasDigits t n := by
  obtain ⟨rest, hrest, hn⟩ := h
  exact ⟨rest, hrest.trans hs, hn⟩

namespace Reader

variable {α β : Type} {depth : Nat} {s t : Text}

/-- What a reader gives up for lies in the text, when so many arrays and objects may be opened. -/
def Fault.LiesIn (depth : Nat) (t : Text) : Fault → Prop
  | .malformed _ _ => True
  | .tooManyDigits n => Numeral.maxDigits < n ∧ HasDigits t n
  | .tooDeep _ => depth < openings t

theorem Fault.LiesIn.of_suffix {fault : Fault} (h : fault.LiesIn depth s) (hs : s <:+ t) :
    fault.LiesIn depth t := by
  cases fault with
  | malformed _ _ => trivial
  | tooManyDigits n => exact ⟨h.1, h.2.of_suffix hs⟩
  | tooDeep _ => exact Nat.lt_of_lt_of_le h (openings_le hs)

/-- A reader keeps to its text: it leaves an end of it, and what it gives up for lies in it. -/
def Confined (depth : Nat) (t : Text) : Except Fault (α × Text) → Prop
  | .ok (_, rest) => rest <:+ t
  | .error fault => fault.LiesIn depth t

theorem Confined.of_suffix {x : Except Fault (α × Text)} (h : Confined depth s x) (hs : s <:+ t) :
    Confined depth t x := by
  cases x with
  | ok r => exact List.IsSuffix.trans h hs
  | error fault => exact Fault.LiesIn.of_suffix h hs

theorem Confined.bind {x : Except Fault (α × Text)} {f : α × Text → Except Fault (β × Text)}
    (hx : Confined depth t x) (hf : ∀ a rest, rest <:+ t → Confined depth rest (f (a, rest))) :
    Confined depth t (x >>= f) := by
  cases x with
  | ok r => exact (hf r.1 r.2 hx).of_suffix hx
  | error fault => exact hx

theorem skip_suffix (t : Text) : skip t <:+ t := List.dropWhile_suffix _

theorem suffix_of_skip_eq (h : skip t = s) : s <:+ t := h ▸ skip_suffix t

/-! ### Strings -/

theorem confined_stringBody (start read : Text) (coded : Bool) (t : Text) :
    Confined depth t (stringBody start read coded t) := by
  fun_induction stringBody start read coded t with
  | case1 | case3 | case5 | case6 | case8 | case9 => trivial
  | case2 => exact List.suffix_cons _ _
  | case4 read coded a b c d e rest n hcode u ih => exact ih.of_suffix ⟨[_, _, _, _, _, _], rfl⟩
  | case7 read coded u rest _ _ c hescaped ih => exact ih.of_suffix ⟨[_, _], rfl⟩
  | case10 read coded u rest _ _ _ _ _ hprintable ih => exact ih.of_suffix (List.suffix_cons _ _)

/-! ### Words and numbers -/

theorem after?_suffix {word : List Char} {rest : Text} (h : after? word t = some rest) :
    rest <:+ t := by
  induction word generalizing t with
  | nil =>
    cases h
    exact List.suffix_rfl
  | cons w ws ih =>
    cases t with
    | nil => cases h
    | cons u t =>
      rw [after?] at h
      split at h
      · exact (ih h).trans (List.suffix_cons u t)
      · cases h

theorem takeDigits_suffix (t : Text) : (takeDigits t).2 <:+ t := List.dropWhile_suffix _

/-- The digits before the fraction are a single one, or the digits in a row at the front. -/
theorem wholePart?_eq {whole : List Char} {rest : Text} (h : wholePart? t = some (whole, rest)) :
    rest <:+ t ∧ (whole.length ≤ 1 ∨ whole = t.charsWhile Char.isDigit) := by
  unfold wholePart? at h
  split at h
  · cases h
    exact ⟨List.suffix_cons _ _, .inl (Nat.le_refl 1)⟩
  · split at h
    · next u t _ _ =>
      have hdigits : (takeDigits (u :: t)).1 = whole ∧ (takeDigits (u :: t)).2 = rest := by
        cases h
        exact ⟨rfl, rfl⟩
      exact ⟨hdigits.2 ▸ takeDigits_suffix _, .inr hdigits.1.symm⟩
    · cases h
  · cases h

theorem fractionPart_suffix (t : Text) : (fractionPart t).2 <:+ t := by
  unfold fractionPart
  split
  · split
    · exact (takeDigits_suffix _).trans (List.suffix_cons _ _)
    · exact List.suffix_rfl
  · exact List.suffix_rfl

theorem exponentPart_suffix (t : Text) : (exponentPart t).2 <:+ t := by
  unfold exponentPart
  split
  · next e rest =>
    split
    · -- a mark, a sign or none, and digits or none
      split
      next negative digits hsign =>
      have hdigits : digits <:+ rest := by
        split at hsign <;> cases hsign
        · exact List.suffix_cons _ _
        · exact List.suffix_cons _ _
        · exact List.suffix_rfl
      have hbehind := (takeDigits_suffix digits).trans hdigits
      split
      · exact List.suffix_rfl
      · next heq =>
        rw [heq] at hbehind
        exact hbehind.trans (List.suffix_cons _ _)
    · exact List.suffix_rfl
  · exact List.suffix_rfl

/-- The digits of a number before its fraction stand in a row in the text. -/
theorem number?_eq {n : Number} {rest : Text} (h : number? t = some (n, rest)) :
    rest <:+ t ∧ (n.whole.length ≤ 1 ∨ HasDigits t n.whole.length) := by
  unfold number? at h
  split at h
  next negative unsigned hsign =>
  have hunsigned : unsigned <:+ t := by
    split at hsign <;> cases hsign
    · exact List.suffix_cons _ _
    · exact List.suffix_rfl
  obtain ⟨⟨whole, behind⟩, hwhole, heq⟩ := Option.map_eq_some_iff.1 h
  cases heq
  obtain ⟨hbehind, hdigits⟩ := wholePart?_eq hwhole
  refine ⟨?_, hdigits.imp_right fun h => ⟨unsigned, hunsigned, congrArg List.length h.symm⟩⟩
  have hfraction := (fractionPart_suffix behind).trans (hbehind.trans hunsigned)
  exact (exponentPart_suffix _).trans hfraction

theorem confined_number {n : Number} {rest : Text} (h : number? t = some (n, rest)) :
    Confined depth t (n.value.map fun v => (v, rest)) := by
  obtain ⟨hrest, hdigits⟩ := number?_eq h
  unfold Number.value
  split
  · split
    · next hmany =>
      rcases hdigits with hone | hdigits
      · have : 1 ≤ Numeral.maxDigits := by decide
        omega
      · exact ⟨hmany, hdigits⟩
    · exact hrest
  · exact hrest

theorem confined_scalar (t : Text) : Confined depth t (scalar t) := by
  unfold scalar
  split
  · next found hfound =>
    obtain ⟨⟨word, v⟩, -, hword⟩ := List.exists_of_findSome?_eq_some hfound
    obtain ⟨rest, hrest, rfl⟩ := Option.map_eq_some_iff.1 hword
    exact after?_suffix hrest
  · split
    · next n rest h => exact confined_number h
    · trivial

/-! ### Values -/

/-- A reader of what an array or an object holds is confined one level below. -/
theorem Confined.opened {u : TextUnit} {x : Except Fault (α × Text)} (h : Confined depth s x)
    (hu : isOpening u = true) (hs : s <:+ t) : Confined (depth + 1) (u :: t) x := by
  have hs' := hs.trans (List.suffix_cons u t)
  match x, h with
  | .ok _, h => exact List.IsSuffix.trans h hs'
  | .error (.malformed _ _), _ => trivial
  | .error (.tooManyDigits n), h => exact ⟨h.1, h.2.of_suffix hs'⟩
  | .error (.tooDeep _), h =>
    have hdepth : depth < openings s := h
    have hle := openings_le hs
    show depth + 1 < openings (u :: t)
    rw [openings_cons hu]
    omega

/-- The parts of the reader are confined, by induction on the steps that are left. -/
theorem confined_parts (fuel : Nat) :
    (∀ depth t, Confined depth t (value fuel depth t)) ∧
      (∀ depth t, Confined depth t (items fuel depth t)) ∧
      ∀ depth read t, Confined depth t (fields fuel depth read t) := by
  induction fuel with
  | zero => exact ⟨fun _ _ => trivial, fun _ _ => trivial, fun _ _ _ => trivial⟩
  | succ fuel ih =>
    obtain ⟨hvalue, hitems, hfields⟩ := ih
    refine ⟨fun depth t => ?_, fun depth t => ?_, fun depth read t => ?_⟩
    · -- what opens an array or an object pays for one level of depth
      unfold value
      split
      · refine ((confined_stringBody _ _ _ _).of_suffix (List.suffix_cons _ _)).bind ?_
        exact fun s rest _ => List.suffix_rfl
      · show 0 < openings _
        rw [openings_cons rfl]
        exact Nat.succ_pos _
      · split
        · next rest _ _ rest' h =>
          exact (List.suffix_cons _ _).trans ((suffix_of_skip_eq h).trans (List.suffix_cons _ _))
        · refine (Confined.bind (hfields _ _ _) ?_).opened rfl (skip_suffix _)
          exact fun fields rest _ => List.suffix_rfl
      · show 0 < openings _
        rw [openings_cons rfl]
        exact Nat.succ_pos _
      · split
        · next rest _ _ rest' h =>
          exact (List.suffix_cons _ _).trans ((suffix_of_skip_eq h).trans (List.suffix_cons _ _))
        · refine (Confined.bind (hitems _ _) ?_).opened rfl (skip_suffix _)
          exact fun items rest _ => List.suffix_rfl
      · exact confined_scalar _
    · unfold items
      refine (hvalue depth t).bind fun v rest _ => ?_
      dsimp only
      split
      · next h => exact (List.suffix_cons _ _).trans (suffix_of_skip_eq h)
      · next rest' h =>
        have hrest : skip rest' <:+ rest :=
          (skip_suffix _).trans ((List.suffix_cons _ _).trans (suffix_of_skip_eq h))
        refine (Confined.bind (hitems depth _) ?_).of_suffix hrest
        exact fun vs rest _ => List.suffix_rfl
      · trivial
    · unfold fields
      split
      · refine ((confined_stringBody _ _ _ _).of_suffix (List.suffix_cons _ _)).bind ?_
        intro name rest _
        dsimp only
        split
        · next rest' h =>
          have hrest : skip rest' <:+ rest :=
            (skip_suffix _).trans ((List.suffix_cons _ _).trans (suffix_of_skip_eq h))
          refine (Confined.bind (hvalue depth _) fun v behind _ => ?_).of_suffix hrest
          dsimp only
          split
          · next h => exact (List.suffix_cons _ _).trans (suffix_of_skip_eq h)
          · next behind' h =>
            have hbehind : skip behind' <:+ behind :=
              (skip_suffix _).trans ((List.suffix_cons _ _).trans (suffix_of_skip_eq h))
            exact (hfields depth _ _).of_suffix hbehind
          · trivial
        · trivial
      · trivial

theorem confined_value (fuel depth : Nat) (t : Text) : Confined depth t (value fuel depth t) :=
  (confined_parts fuel).1 depth t

theorem liesIn_of_document {fault : Fault} (h : document t = .error fault) :
    fault.LiesIn maxDepth t := by
  have hvalue := (confined_value (2 * t.length + 2) maxDepth (skip t)).of_suffix (skip_suffix t)
  unfold document at h
  cases hread : value (2 * t.length + 2) maxDepth (skip t) with
  | error f =>
    rw [hread] at h hvalue
    cases h
    exact hvalue
  | ok r =>
    rw [hread] at h
    dsimp only [bind, Except.bind] at h
    split at h
    · cases h
    · cases h
      trivial

end Reader

/-! ### Whole texts -/

/-- A text is refused as no JSON, or for something that lies in it. -/
theorem exists_fault_of_decode {t : Text} {e : DecodeError} (h : decode t = .error e) :
    (∃ problem position line column, e = .malformed problem position line column) ∨
      ∃ fault : Reader.Fault, fault.LiesIn maxDepth t ∧ fault.locate t = e := by
  unfold decode at h
  split at h
  · cases h
    exact .inl ⟨_, _, _, _, rfl⟩
  · cases hread : Reader.document t with
    | ok j =>
      rw [hread] at h
      cases h
    | error fault =>
      rw [hread] at h
      cases h
      exact .inr ⟨fault, Reader.liesIn_of_document hread, rfl⟩

/-- A text that is refused for its digits has more of them in a row than a numeral may have. -/
theorem decode_eq_tooManyDigits {t : Text} {n : Nat} (h : decode t = .error (.tooManyDigits n)) :
    Numeral.maxDigits < n ∧ HasDigits t n := by
  obtain ⟨_, _, _, _, h⟩ | ⟨fault, hlies, hlocate⟩ := exists_fault_of_decode h
  · cases h
  · cases fault <;> cases hlocate
    exact hlies

/-- A text that is refused for its depth opens more arrays and objects than may be nested. -/
theorem decode_eq_tooDeep {t : Text} {c : Container} (h : decode t = .error (.tooDeep c)) :
    maxDepth < openings t := by
  obtain ⟨_, _, _, _, h⟩ | ⟨fault, hlies, hlocate⟩ := exists_fault_of_decode h
  · cases h
  · cases fault <;> cases hlocate
    exact hlies

/-- A numeral of ones, on a line of its own. -/
def ones (n : Nat) : Text := List.replicate n (.char '1') ++ [.char '\n']

theorem takeDigits_ones (n : Nat) :
    Reader.takeDigits (ones n) = (List.replicate n '1', [.char '\n']) := by
  have hones : ones n = Text.ofChars (List.replicate n '1') ++ [.char '\n'] := by
    simp [ones, Text.ofChars]
  have hdigits : ∀ c ∈ List.replicate n '1', c.isDigit = true := by
    intro c hc
    rw [List.eq_of_mem_replicate hc]
    decide
  rw [hones]
  exact Reader.takeDigits_append hdigits (Reader.ends_cons (by decide) (by decide) _)

/-- A numeral with too many digits is refused for them. -/
theorem decode_ones {n : Nat} (h : Numeral.maxDigits < n) :
    decode (ones n) = .error (.tooManyDigits n) := by
  obtain ⟨m, rfl⟩ : ∃ m, n = m + 1 := ⟨n - 1, by omega⟩
  have hnumber : Reader.number? (ones (m + 1)) =
      some (⟨false, List.replicate (m + 1) '1', [], none⟩, [.char '\n']) := by
    have hwhole : Reader.wholePart? (ones (m + 1)) = some (Reader.takeDigits (ones (m + 1))) := rfl
    rw [takeDigits_ones] at hwhole
    unfold Reader.number?
    dsimp only
    show Option.map _ (Reader.wholePart? (ones (m + 1))) = _
    rw [hwhole]
    rfl
  have hscalar : Reader.scalar (ones (m + 1)) = .error (.tooManyDigits (m + 1)) := by
    unfold Reader.scalar
    split
    · next hword => cases hword
    · rw [hnumber]
      simp [Reader.Number.value, h, Except.map]
  have hvalue : Reader.value (2 * (ones (m + 1)).length + 2) maxDepth (ones (m + 1)) =
      .error (.tooManyDigits (m + 1)) := hscalar
  have hskip : Reader.skip (ones (m + 1)) = ones (m + 1) := rfl
  have hdocument : Reader.document (ones (m + 1)) = .error (.tooManyDigits (m + 1)) := by
    unfold Reader.document
    rw [hskip, hvalue]
    rfl
  show (Reader.document (ones (m + 1))).mapError _ = _
  rw [hdocument]
  rfl

end Json
end ReleaseNotes
