/-
The blocks of a reply.

Every block of a reply holds a call or is skipped, as long as no block overruns a limit of the
reader; the first block that does so ends the search, and the calls behind it are lost.

Main statements:
* `Fence.overrun?`, `ToolCall.ofBlock?` — the limit that a block overruns, and its call;
* `ToolCall.ofBodies_eq` — what is found in some blocks;
* `ToolCall.ofBodies_eq_iff` — when all calls are found;
* `Fence.overrun?_eq_none` — blocks that overrun no limit;
* `Fence.Unmarked`, `Fence.bodies_append` — texts without blocks;
* `Fence.bodies_block_of_unmarked` — the blocks of a text that begins with one.
-/
import Mathlib.Data.List.TakeWhile
import ReleaseNotes.Proofs.Json.Limits
import ReleaseNotes.Proofs.Tool.Fences

namespace ReleaseNotes

/-- The limit of the reader that a block overruns: a numeral is too long, or arrays and objects are
nested too deeply. -/
def Fence.overrun? (body : Text) : Option Json.DecodeError :=
  match Json.decode body with
  | .ok _ | .error (.malformed _ _ _ _) => none
  | .error e => some e

/-- A block with few digits in a row and few arrays and objects overruns no limit. -/
theorem Fence.overrun?_eq_none {body : Text}
    (hdigits : ∀ n, Json.HasDigits body n → n ≤ Numeral.maxDigits)
    (hdepth : Json.openings body ≤ Json.maxDepth) : overrun? body = none := by
  unfold overrun?
  cases h : Json.decode body with
  | ok j => rfl
  | error e =>
    cases e with
    | malformed _ _ _ _ => rfl
    | tooManyDigits n =>
      obtain ⟨hmany, hhas⟩ := Json.decode_eq_tooManyDigits h
      have := hdigits n hhas
      omega
    | tooDeep c =>
      have := Json.decode_eq_tooDeep h
      omega

namespace Fence

/-- A text without a mark. -/
def Unmarked (t : Text) : Prop := ¬ Text.ofChars mark <:+: t

instance (t : Text) : Decidable (Unmarked t) := inferInstanceAs (Decidable (¬ _))

theorem Unmarked.tail {u : TextUnit} {t : Text} (h : Unmarked (u :: t)) : Unmarked t := by
  intro hmark
  exact h (hmark.trans (List.suffix_cons u t).isInfix)

theorem unmarked_of_not_mem {t : Text} (h : .char '\x60' ∉ t) : Unmarked t := by
  intro hmark
  exact h (hmark.subset (by decide))

theorem Unmarked.concat {t : Text} (h : Unmarked t) {u : TextUnit} (hu : u ≠ .char '\x60') :
    Unmarked (t ++ [u]) := by
  rintro ⟨before, behind, heq⟩
  rcases behind.eq_nil_or_concat with rfl | ⟨behind, v, rfl⟩
  · -- the mark would end with the unit
    have hlast := congrArg List.getLast? heq
    simp [Text.ofChars, mark] at hlast
    exact hu hlast.symm
  · rw [List.concat_eq_append, ← List.append_assoc] at heq
    exact h ⟨before, behind, (List.append_inj' heq rfl).1⟩

/-- A mark that begins in a text without one is not finished before the end of the text. -/
theorem Unmarked.front {t rest behind : Text} (h : Unmarked t) (hne : t ≠ [])
    (heq : t ++ rest = Text.ofChars mark ++ behind) :
    (t = [.char '\x60'] ∧ rest = .char '\x60' :: .char '\x60' :: behind) ∨
      (t = [.char '\x60', .char '\x60'] ∧ rest = .char '\x60' :: behind) := by
  have hcons : ∀ {u : TextUnit} {t s : Text}, u :: t = .char '\x60' :: s →
      u = .char '\x60' ∧ t = s := List.cons_eq_cons.1
  match t, hne with
  | [u], _ =>
    obtain ⟨hu, hrest⟩ := hcons heq
    exact .inl ⟨by rw [hu], hrest⟩
  | [u, v], _ =>
    obtain ⟨hu, heq⟩ := hcons heq
    obtain ⟨hv, hrest⟩ := hcons heq
    exact .inr ⟨by rw [hu, hv], hrest⟩
  | u :: v :: w :: t, _ =>
    obtain ⟨hu, heq⟩ := hcons heq
    obtain ⟨hv, heq⟩ := hcons heq
    obtain ⟨hw, -⟩ := hcons heq
    rw [hu, hv, hw] at h
    exact absurd (List.prefix_append (Text.ofChars mark) t).isInfix h

theorem freeOfMarks_of_unmarked {body : Text} (h : Unmarked body)
    (hlast : body.getLast? ≠ some (.char '\x60')) (rest : Text) : FreeOfMarks body rest := by
  induction body with
  | nil => exact fun _ _ _ => Nat.zero_le _
  | cons u body ih =>
    refine freeOfMarks_cons.2 ⟨fun behind heq => ?_, ih h.tail fun hbody => hlast ?_⟩
    · -- a mark that ends behind the body would begin with its last unit
      rcases h.front (List.cons_ne_nil u body) heq with ⟨hbody, -⟩ | ⟨hbody, -⟩
      · exact hlast (by rw [hbody]; rfl)
      · exact hlast (by rw [hbody]; rfl)
    · rw [List.getLast?_cons, hbody]
      rfl

/-- No block opens in a text without a mark, not even if one opens right behind it. -/
theorem bodies_append {prose : Text} (h : Unmarked prose) {rest : Text}
    (hrest : rest = [] ∨ Text.ofChars mark <+: rest) : bodies (prose ++ rest) = bodies rest := by
  induction prose with
  | nil => rfl
  | cons u prose ih =>
    have hplace : ¬ Opens (u :: (prose ++ rest)) := by
      rintro ⟨v, behind, heq, hv⟩
      -- the unit behind the mark belongs to the mark at the front of the rest
      have hmark : v = .char '\x60' := by
        rcases hrest with rfl | ⟨w, rfl⟩
        · rcases h.front (List.cons_ne_nil u prose) heq with ⟨-, heq⟩ | ⟨-, heq⟩ <;> cases heq
        · rcases h.front (List.cons_ne_nil u prose) heq with ⟨-, heq⟩ | ⟨-, heq⟩
          · cases heq
            rfl
          · cases heq
            rfl
      rw [hmark] at hv
      exact absurd hv (by decide)
    rw [List.cons_append, bodies_cons_of_not_opens hplace]
    exact ih h.tail

/-- A block with a body, on lines of its own. -/
def block (body : Text) : Text :=
  Text.ofChars opening ++ (.char '\n' :: (body ++ (Text.ofChars mark ++ [.char '\n'])))

theorem isBlock_block {body : Text} (h : Unmarked body)
    (hlast : body.getLast? ≠ some (.char '\x60')) (rest : Text) :
    IsBlock (block body ++ rest) body (.char '\n' :: rest) := by
  have hletters : (opening.all fun c => sameLetter c c) = true := by decide
  have hopening : Directive.Spells opening (Text.ofChars opening) :=
    List.forall₂_map_right_iff.2 (List.forall₂_same.2 (List.all_eq_true.1 hletters))
  have hends : EndsLine (.char '\n' :: rest) :=
    ⟨[], _, rfl, by simp [Filling], .inr ⟨[.char '\n'], rest, rfl, .inl rfl⟩⟩
  exact ⟨Text.ofChars opening, [], [.char '\n'], by simp [block], hopening, by simp [Filling],
    .inl rfl, freeOfMarks_of_unmarked h hlast _, hends⟩

theorem bodies_block_of_unmarked {body : Text} (h : Unmarked body)
    (hlast : body.getLast? ≠ some (.char '\x60')) (rest : Text) :
    bodies (block body ++ rest) = body :: bodies rest := by
  have hbreak : ¬ Opens (.char '\n' :: rest) := not_opens_of_first (by decide)
  rw [bodies_of_isBlock (isBlock_block h hlast rest), bodies_cons_of_not_opens hbreak]

theorem bodies_block {body : Text} (h : ∀ u ∈ body, u.passes (sameLetter '\x60') = false)
    (rest : Text) : bodies (block body ++ rest) = body :: bodies rest := by
  have hmark : .char '\x60' ∉ body := by
    intro hu
    exact absurd (h _ hu) (by decide)
  exact bodies_block_of_unmarked (unmarked_of_not_mem hmark)
    (fun hlast => hmark (List.mem_of_getLast? hlast)) rest

end Fence

namespace ToolCall

/-- The call that a block holds, if it is read at all and holds one. -/
def ofBlock? (body : Text) : Option ToolCall :=
  match Json.decode body with
  | .ok j => (check j).value?
  | .error _ => none

theorem ofBody_eq (body : Text) :
    ofBody body =
      match Fence.overrun? body with
      | some e => .error (.json e)
      | none => .ok (ofBlock? body) := by
  unfold ofBody Fence.overrun? ofBlock?
  cases Json.decode body with
  | ok j => rfl
  | error e => cases e <;> rfl

/-- What is found in some blocks: the calls of those before the first one that overruns a limit, and
the failure of that one. -/
theorem ofBodies_eq (bodies : List Text) :
    ofBodies bodies =
      ((bodies.takeWhile fun body => (Fence.overrun? body).isNone).filterMap ofBlock?,
        (bodies.findSome? Fence.overrun?).map .json) := by
  induction bodies with
  | nil => rfl
  | cons body rest ih =>
    rw [ofBodies, ofBody_eq]
    cases h : Fence.overrun? body with
    | some e => simp [h]
    | none => cases hcall : ofBlock? body <;> simp [h, hcall, ih]

/-- All calls of some blocks are found, and nothing fails, exactly if no block overruns a limit. -/
theorem ofBodies_eq_iff (bodies : List Text) :
    ofBodies bodies = (bodies.filterMap ofBlock?, none) ↔
      ∀ body ∈ bodies, Fence.overrun? body = none := by
  rw [ofBodies_eq]
  constructor
  · intro h
    have hfind : (bodies.findSome? Fence.overrun?).map Failure.json = none :=
      congrArg Prod.snd h
    rwa [Option.map_eq_none_iff, List.findSome?_eq_none_iff] at hfind
  · intro h
    have hall : (bodies.takeWhile fun body => (Fence.overrun? body).isNone) = bodies := by
      rw [List.takeWhile_eq_self_iff]
      intro body hbody
      rw [h body hbody]
      rfl
    rw [hall, List.findSome?_eq_none_iff.2 h]
    rfl

theorem all_eq_ok_iff {t : Text} {calls : List ToolCall} :
    all t = .ok calls ↔ scan t = (calls, none) := by
  unfold all
  split
  · next h => rw [h]; simp
  · next h => rw [h]; simp

/-- A text fails to be read exactly if one of its blocks overruns a limit, and the first one of them
says why. -/
theorem all_eq_error_iff {t : Text} {f : Failure} :
    all t = .error f ↔ ∃ e, (Fence.bodies t).findSome? Fence.overrun? = some e ∧ f = .json e := by
  unfold all scan
  rw [ofBodies_eq]
  cases (Fence.bodies t).findSome? Fence.overrun? with
  | none => simp
  | some e => simp [eq_comm]

end ToolCall
end ReleaseNotes
