/-
Paths and their steps.

A path is walked step by step from a place; a step to the upper level leaves the place, and so does
a slash too many.  What may not stand in a path is encoded character by character, so that the
encoding keeps the slashes between the steps and the steps to the same and to the upper level, and
makes no new ones.

Main statements:
* `Target.walk` — the place that a path leads to;
* `Target.IsName` — the texts that name one thing at a place;
* `Target.resolve_eq_append_iff` — paths that are resolved to one name at a place;
* `Target.isDots_percentEncode_iff`, `Target.IsName.percentEncode` — steps and names that are
  encoded;
* `Target.of_eq_ok` — the target of an address;
* `Target.split_append` — the parts of an address that begins with a path.
-/
import ReleaseNotes.Proofs.Json.RoundTrip
import ReleaseNotes.Proofs.Web.Addresses

namespace ReleaseNotes
namespace Target

/-! ### Walking a path -/

/-- A step that leads nowhere: to the same or to the upper level. -/
def IsDots (s : List Char) : Prop := s = ['.'] ∨ s = ['.', '.']

/-- A text that names one thing at a place: one step, and none that leads nowhere. -/
structure IsName (s : List Char) : Prop where
  nonempty : s ≠ []
  undivided : '/' ∉ s
  leads : ¬ IsDots s

/-- The place that a path leads to from a place, told by the steps to it, last first. -/
def walk (place : List (List Char)) (cs : List Char) : List (List Char) :=
  (cs.splitOn '/').foldl step place

theorem resolve_eq (cs : List Char) :
    resolve cs = ['/'].intercalate (walk [] cs).reverse := rfl

theorem walk_append (place : List (List Char)) (a b : List Char) :
    walk place (a ++ '/' :: b) = walk (walk place a) b := by
  rw [walk, List.splitOn_append_cons_self, List.foldl_append]
  rfl

theorem step_of_not_isDots {s : List Char} (h : ¬ IsDots s) (place : List (List Char)) :
    step place s = s :: place := by
  rw [step, if_neg fun hs => h (.inl hs), if_neg fun hs => h (.inr hs)]

theorem walk_of_undivided {s : List Char} (h : '/' ∉ s) (place : List (List Char)) :
    walk place s = step place s := by
  rw [walk, List.splitOn_eq_singleton h]
  rfl

theorem IsName.walk_eq {s : List Char} (h : IsName s) (place : List (List Char)) :
    walk place s = s :: place := by
  rw [walk_of_undivided h.undivided, step_of_not_isDots h.leads]

theorem not_mem_of_mem_splitOn {cs s : List Char} (hs : s ∈ cs.splitOn '/') : '/' ∉ s := by
  induction cs generalizing s with
  | nil =>
    rw [List.splitOn_nil, List.mem_singleton] at hs
    rw [hs]
    exact List.not_mem_nil
  | cons c cs ih =>
    rw [List.splitOn_cons_eq_if_modifyHead] at hs
    split at hs
    · rcases List.mem_cons.1 hs with rfl | hs
      · exact List.not_mem_nil
      · exact ih hs
    · next hc =>
      -- the character goes to the first step, and it is no slash
      cases hsplit : cs.splitOn '/' with
      | nil => exact absurd hsplit (List.splitOn_ne_nil _ _)
      | cons first rest =>
        rw [hsplit, List.modifyHead_cons] at hs
        rcases List.mem_cons.1 hs with rfl | hs
        · rw [List.mem_cons, not_or]
          refine ⟨?_, ih (by rw [hsplit]; exact List.mem_cons_self)⟩
          rintro rfl
          exact hc (beq_self_eq_true _)
        · exact ih (by rw [hsplit]; exact List.mem_cons_of_mem _ hs)

/-- All steps to a place lead somewhere and have no slash in them. -/
theorem mem_foldl_step {steps place : List (List Char)}
    (hplace : ∀ s ∈ place, '/' ∉ s ∧ ¬ IsDots s) (hsteps : ∀ s ∈ steps, '/' ∉ s) :
    ∀ s ∈ steps.foldl step place, '/' ∉ s ∧ ¬ IsDots s := by
  induction steps generalizing place with
  | nil => exact hplace
  | cons t steps ih =>
    refine ih ?_ fun s hs => hsteps s (List.mem_cons_of_mem _ hs)
    intro s hs
    unfold step at hs
    split at hs
    · exact hplace s hs
    · next hone =>
      split at hs
      · split at hs
        · exact hplace s hs
        · exact hplace s (List.mem_of_mem_drop hs)
      · next htwo =>
        rcases List.mem_cons.1 hs with rfl | hs
        · exact ⟨hsteps _ List.mem_cons_self, fun h => h.elim hone htwo⟩
        · exact hplace s hs

theorem mem_walk {cs s : List Char} (hs : s ∈ walk [] cs) : '/' ∉ s ∧ ¬ IsDots s :=
  mem_foldl_step (fun _ h => absurd h List.not_mem_nil) (fun _ h => not_mem_of_mem_splitOn h) s hs

/-- What a path is resolved to tells the steps to the place that it leads to. -/
theorem walk_eq_of_resolve {cs : List Char} {steps : List (List Char)}
    (hsteps : ∀ s ∈ steps, '/' ∉ s) (hne : ['/'].intercalate steps ≠ [])
    (h : resolve cs = ['/'].intercalate steps) : walk [] cs = steps.reverse := by
  have hwalk : (walk [] cs).reverse ≠ [] := by
    intro hnil
    rw [resolve_eq, hnil] at h
    exact hne h.symm
  have hnil : steps ≠ [] := by
    rintro rfl
    exact hne rfl
  have hsplit := List.splitOn_intercalate '/'
    (fun s hs => (mem_walk (List.mem_reverse.1 hs)).1) hwalk
  rw [← resolve_eq, h, List.splitOn_intercalate '/' hsteps hnil] at hsplit
  rw [hsplit, List.reverse_reverse]

theorem foldl_step_of_leads {steps : List (List Char)} (h : ∀ s ∈ steps, ¬ IsDots s)
    (place : List (List Char)) : steps.foldl step place = steps.reverse ++ place := by
  induction steps generalizing place with
  | nil => rfl
  | cons s steps ih =>
    rw [List.foldl_cons, step_of_not_isDots (h s List.mem_cons_self),
      ih fun t ht => h t (List.mem_cons_of_mem _ ht)]
    simp

theorem walk_of_leads {cs : List Char} (h : ∀ s ∈ cs.splitOn '/', ¬ IsDots s) :
    walk [] cs = (cs.splitOn '/').reverse := by
  rw [walk, foldl_step_of_leads h, List.append_nil]

/-- A path that goes on behind another one is resolved to one name behind that exactly if all steps
of that lead somewhere and the rest, walked from there, leads to that name at the same place. -/
theorem resolve_eq_append_iff {base rest s : List Char} (hs : IsName s) :
    resolve (base ++ '/' :: rest) = base ++ '/' :: s ↔
      (∀ t ∈ base.splitOn '/', ¬ IsDots t) ∧
        walk (base.splitOn '/').reverse rest = s :: (base.splitOn '/').reverse := by
  have hsplit : (base ++ '/' :: s).splitOn '/' = base.splitOn '/' ++ [s] := by
    rw [List.splitOn_append_cons_self, List.splitOn_eq_singleton hs.undivided]
  have hjoin : ['/'].intercalate (base.splitOn '/' ++ [s]) = base ++ '/' :: s := by
    rw [← hsplit, List.intercalate_splitOn]
  constructor
  · intro h
    have hwalk : walk [] (base ++ '/' :: rest) = (base.splitOn '/' ++ [s]).reverse := by
      refine walk_eq_of_resolve ?_ (by simp [hjoin]) (by rw [h, hjoin])
      rw [← hsplit]
      exact fun t ht => not_mem_of_mem_splitOn ht
    rw [List.reverse_append, List.reverse_singleton, List.singleton_append] at hwalk
    have hleads : ∀ t ∈ base.splitOn '/', ¬ IsDots t := by
      intro t ht
      have hmem : t ∈ walk [] (base ++ '/' :: rest) := by
        rw [hwalk]
        exact List.mem_cons_of_mem _ (List.mem_reverse.2 ht)
      exact (mem_walk hmem).2
    refine ⟨hleads, ?_⟩
    rwa [walk_append, walk_of_leads hleads] at hwalk
  · rintro ⟨hleads, hwalk⟩
    rw [resolve_eq, walk_append, walk_of_leads hleads, hwalk, ← hjoin]
    simp

/-! ### Encoded characters -/

theorem percentEncode_append (bad a b : List Char) :
    percentEncode bad (a ++ b) = percentEncode bad a ++ percentEncode bad b :=
  List.flatMap_append

theorem percentEncode_cons (bad : List Char) (c : Char) (cs : List Char) :
    percentEncode bad (c :: cs) = percentEncode bad [c] ++ percentEncode bad cs :=
  percentEncode_append bad [c] cs

theorem toUpper_digitChar_ne_slash : ∀ k < 16, (Nat.digitChar k).toUpper ≠ '/' := by decide

theorem slash_not_mem_encodeByte (b : UInt8) : '/' ∉ encodeByte b := by
  have hb : b.toNat < 256 := b.toNat_lt
  have hdigits : hexPadded 2 b.toNat =
      [Nat.digitChar (b.toNat / 16), Nat.digitChar (b.toNat % 16)] := by
    rw [hexPadded_succ (by decide), hexPadded_one (by omega)]
    rfl
  have hhigh := toUpper_digitChar_ne_slash (b.toNat / 16) (by omega)
  have hlow := toUpper_digitChar_ne_slash (b.toNat % 16) (by omega)
  simp [encodeByte, hdigits, hhigh.symm, hlow.symm]

theorem toList_loop_ne_nil (bytes : ByteArray) (i : Nat) {read : List UInt8} (h : read ≠ []) :
    ByteArray.toList.loop bytes i read ≠ [] := by
  fun_induction ByteArray.toList.loop bytes i read with
  | case1 i read hi ih => exact ih (List.cons_ne_nil _ _)
  | case2 i read hi => simpa using h

theorem toUTF8_singleton_ne_nil (c : Char) : (String.singleton c).toUTF8.toList ≠ [] := by
  have hsize : 0 < (String.singleton c).toUTF8.size := by
    show 0 < (String.singleton c).utf8ByteSize
    rw [String.utf8ByteSize_singleton]
    exact c.utf8Size_pos
  rw [ByteArray.toList, ByteArray.toList.loop, if_pos hsize]
  exact toList_loop_ne_nil _ _ (List.cons_ne_nil _ _)

/-- A character stays as it is, or a percent sign and no slash stands for it. -/
theorem percentEncode_singleton (bad : List Char) (c : Char) :
    percentEncode bad [c] = [c] ∨
      '%' ∈ percentEncode bad [c] ∧ '/' ∉ percentEncode bad [c] := by
  rw [percentEncode, List.flatMap_singleton]
  split
  · exact .inl rfl
  · refine .inr ⟨?_, ?_⟩
    · obtain ⟨b, bytes, hbytes⟩ := List.exists_cons_of_ne_nil (toUTF8_singleton_ne_nil c)
      rw [hbytes]
      exact List.mem_flatMap.2 ⟨b, List.mem_cons_self, List.mem_cons_self⟩
    · intro hslash
      obtain ⟨b, -, hb⟩ := List.mem_flatMap.1 hslash
      exact slash_not_mem_encodeByte b hb

theorem slash_not_mem_percentEncode {bad cs : List Char} (h : '/' ∉ cs) :
    '/' ∉ percentEncode bad cs := by
  induction cs with
  | nil => exact List.not_mem_nil
  | cons c cs ih =>
    rw [List.mem_cons, not_or] at h
    rw [percentEncode_cons, List.mem_append, not_or]
    refine ⟨?_, ih h.2⟩
    rcases percentEncode_singleton bad c with hsame | ⟨-, hcoded⟩
    · rw [hsame, List.mem_singleton]
      exact h.1
    · exact hcoded

/-- What is encoded without a percent sign is not changed. -/
theorem percentEncode_eq_self {bad cs : List Char} (h : '%' ∉ percentEncode bad cs) :
    percentEncode bad cs = cs := by
  induction cs with
  | nil => rfl
  | cons c cs ih =>
    rw [percentEncode_cons, List.mem_append, not_or] at h
    rw [percentEncode_cons, ih h.2]
    rcases percentEncode_singleton bad c with hsame | ⟨hcoded, -⟩
    · rw [hsame]
      rfl
    · exact absurd hcoded h.1

theorem percentEncode_eq_iff {bad cs t : List Char} (hpercent : '%' ∉ t)
    (hsame : percentEncode bad t = t) : percentEncode bad cs = t ↔ cs = t := by
  constructor
  · rintro rfl
    exact (percentEncode_eq_self hpercent).symm
  · rintro rfl
    exact hsame

theorem isDots_percentEncode_iff {cs : List Char} :
    IsDots (percentEncode unsafeInPath cs) ↔ IsDots cs :=
  or_congr (percentEncode_eq_iff (by decide) (by decide))
    (percentEncode_eq_iff (by decide) (by decide))

theorem IsName.percentEncode {s : List Char} (h : IsName s) :
    IsName (percentEncode unsafeInPath s) where
  nonempty hnil := h.nonempty ((percentEncode_eq_iff List.not_mem_nil rfl).1 hnil)
  undivided := slash_not_mem_percentEncode h.undivided
  leads hdots := h.leads (isDots_percentEncode_iff.1 hdots)

/-! ### Addresses -/

/-- The path of the target of an address is that of the address, encoded and resolved, and it has a
query if the address has one. -/
theorem of_eq_ok {t : Text} {target : Target} (h : of t = .ok target) :
    let parts := split (t.filterMap TextUnit.char?)
    target.path = String.ofList
        (resolve ('/' :: (percentEncode unsafeInPath parts.1).dropWhile (· == '/'))) ∧
      target.query = parts.2.map fun q => String.ofList (percentEncode unsafeInQuery q) := by
  intro parts
  unfold of at h
  split at h
  · cases h
  · dsimp only at h
    split at h
    · cases h
    · split at h
      · cases h
      · cases h
        exact ⟨rfl, Option.map_map ..⟩

theorem split_append {cs : List Char} (h : ∀ c ∈ cs, IsPlain c) (rest : List Char) :
    split (cs ++ rest) = (cs ++ (split rest).1, (split rest).2) := by
  have hhash : ∀ c ∈ cs, (c != '#') = true := fun c hc => by simpa using (h c hc).2.2.2
  have hquestion : ∀ c ∈ cs, (c != '?') = true := fun c hc => by simpa using (h c hc).2.2.1
  unfold split
  rw [List.takeWhile_append_of_pos hhash]
  dsimp only
  rw [List.takeWhile_append_of_pos hquestion, List.dropWhile_append_of_pos hquestion]

theorem split_of_not_mem {cs : List Char} (hquestion : '?' ∉ cs) (hhash : '#' ∉ cs) :
    split cs = (cs, none) := by
  have hunmarked : ∀ {mark : Char}, mark ∉ cs → ∀ c ∈ cs, (c != mark) = true := by
    intro mark hmark c hc
    rw [bne_iff_ne]
    rintro rfl
    exact hmark hc
  unfold split
  rw [List.takeWhile_eq_self_iff.2 (hunmarked hhash)]
  dsimp only
  rw [List.takeWhile_eq_self_iff.2 (hunmarked hquestion),
    List.dropWhile_eq_nil_iff.2 (hunmarked hquestion)]

end Target
end ReleaseNotes
