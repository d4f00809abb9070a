/-
Releases in succession.

From a version that can be read, or from none, one release after another succeeds, as long as the
numbers can be written: each step starts from the text that the one before it ended with, ends with
the text of the next version, and that version comes behind all versions before it.

Main statements:
* `VersionStep.check_fields` — the check of a step's fields;
* `VersionStep.createFrom_successor` — a release from a version that can be read;
* `VersionStep.IsSuccession` — steps of which each starts where the one before ended;
* `VersionStep.session_raised` — the steps of a session are the versions of a row;
* `VersionStep.session_rises` — no version comes twice in a session.
-/
import ReleaseNotes.Proofs.Version.Raising
import ReleaseNotes.Release.Step

namespace ReleaseNotes
namespace VersionStep

open Version

/-! ### One step -/

theorem hasByte_of_parse {t : Text} {v : Version} (h : parse t = .ok v) : t.hasByte = false := by
  obtain ⟨-, rfl | rfl⟩ := parse_eq_ok_iff.1 h
  · exact Text.hasByte_ofString _
  · exact Text.hasByte_ofString _

theorem make_of_forward {input : Json} {previous : Option Text} {current : Text}
    {kind : ReleaseKind} (h : problem? previous current = none) :
    make input previous current kind = .ok ⟨previous, current, kind, h⟩ := by
  unfold make
  split
  · rfl
  · next f hf => rw [h] at hf; cases hf

theorem choice_word (kind : ReleaseKind) :
    Check.choice ReleaseKind.word ReleaseKind.all (.text kind.word) = .ok kind := by
  cases kind <;> rfl

/-- The fields of a step are checked by what they hold, if no unit of a text is a byte. -/
theorem check_fields {previous : Option Text} {current : Text} (kind : ReleaseKind)
    (hprevious : ∀ t, previous = some t → t.hasByte = false) (hcurrent : current.hasByte = false) :
    check (.record [("previous", previous.elim .null .str), ("current", .str current),
        ("release_type", .text kind.word)]) =
      make (.record [("previous", previous.elim .null .str), ("current", .str current),
        ("release_type", .text kind.word)]) previous current kind := by
  have hread : Check.nullable Check.text (previous.elim .null .str) = .ok previous := by
    cases previous with
    | none => rfl
    | some t => simp [Check.nullable, Check.text, hprevious t rfl, Validated.map]
  have hread' : Check.text (.str current) = .ok current := by simp [Check.text, hcurrent]
  unfold check Check.object Json.record
  dsimp only
  rw [Check.optional_eq_ok (j := previous.elim .null .str) (by simp [Json.lookup]) hread,
    Check.required_eq_ok (j := .str current) (by simp [Json.lookup, Text.ofString_inj]) hread',
    Check.required_eq_ok (j := .text kind.word) (by simp [Json.lookup, Text.ofString_inj])
      (choice_word kind)]
  rfl

theorem mapM_parse {t : Text} {v : Version} (h : parse t = .ok v) :
    (some t).mapM parse = .ok (some v) := by
  rw [Option.mapM_some, h]
  rfl

theorem exists_of_mapM_parse {t : Text} {v? : Option Version}
    (h : (some t).mapM parse = .ok v?) : ∃ v, parse t = .ok v ∧ v? = some v := by
  rw [Option.mapM_some] at h
  cases ht : parse t with
  | error f =>
    rw [ht] at h
    cases h
  | ok v =>
    rw [ht] at h
    cases h
    exact ⟨v, rfl, rfl⟩

/-- Nothing keeps a text that is read as a release from ending a step, if the release comes behind
the version that the step starts from. -/
theorem problem?_eq_none {previous : Option Text} {current : Text} {v? : Option Version}
    {w : Version} (hprevious : previous.mapM parse = .ok v?) (hcurrent : parse current = .ok w)
    (hrelease : w.IsRelease) (hbehind : ∀ v, v? = some v → precedence v w = .lt) :
    problem? previous current = none := by
  unfold problem?
  rw [hcurrent]
  cases previous with
  | none => rfl
  | some p =>
    obtain ⟨v, hp, rfl⟩ := exists_of_mapM_parse hprevious
    have hgt : precedence w v = .gt := Std.OrientedCmp.gt_of_lt (hbehind v rfl)
    simp [hp, order_of_release hrelease.prerelease, hgt]

theorem hasByte_of_mapM {start : Option Text} {v? : Option Version}
    (hstart : start.mapM parse = .ok v?) : ∀ t, start = some t → t.hasByte = false := by
  rintro t rfl
  obtain ⟨v, ht, -⟩ := exists_of_mapM_parse hstart
  exact hasByte_of_parse ht

theorem precedence_successor {v? : Option Version} {k : ReleaseKind} :
    ∀ v, v? = some v → precedence v (successor v? k) = .lt := by
  rintro v rfl
  exact precedence_bump v k

theorem parse_successor {v? : Option Version} {k : ReleaseKind}
    (hshort : (successor v? k).isWritable = true) :
    parse (successor v? k).print = .ok (successor v? k) :=
  parse_print ((isRelease_successor v? k).wellFormed hshort)

/-- The text of the next version. -/
theorem next_successor {start : Option Text} {v? : Option Version} {k : ReleaseKind}
    (hstart : start.mapM parse = .ok v?) (hshort : (successor v? k).isWritable = true) :
    Version.next (start.map .str) k = .ok (successor v? k).print := by
  cases start with
  | none =>
    cases hstart
    rfl
  | some t =>
    obtain ⟨v, ht, rfl⟩ := exists_of_mapM_parse hstart
    have htext : (v.bump k).text = .ok (v.bump k).print := if_pos hshort
    rw [Option.map_some, next_of_parse ht, successor, htext]
    rfl

/-- A release from a version that can be read, or from none, is a step to the text of the next
version, if that can be written. -/
theorem createFrom_successor {start : Option Text} {v? : Option Version} {k : ReleaseKind}
    (hstart : start.mapM parse = .ok v?) (hshort : (successor v? k).isWritable = true) :
    ∃ step : VersionStep, createFrom (start.map .str) (.text k.word) = .ok step ∧
      step.previous = start ∧ step.current = (successor v? k).print ∧ step.kind = k := by
  have hforward : problem? start (successor v? k).print = none :=
    problem?_eq_none hstart (parse_successor hshort) (isRelease_successor v? k)
      precedence_successor
  have hkind : ReleaseKind.read (.text k.word) = .ok k := by cases k <;> rfl
  have hprevious : (start.map Json.str).getD .null = start.elim .null .str := by
    cases start <;> rfl
  have hcreate : create (start.map .str) k =
      .ok ⟨start, (successor v? k).print, k, hforward⟩ := by
    unfold create
    rw [next_successor hstart hshort, hprevious]
    show (check (.record [("previous", start.elim .null .str),
      ("current", .str (successor v? k).print), ("release_type", .text k.word)])).orFail model = _
    rw [check_fields k (hasByte_of_mapM hstart) (Text.hasByte_ofString _), make_of_forward hforward]
    rfl
  refine ⟨⟨start, (successor v? k).print, k, hforward⟩, ?_, rfl, rfl, rfl⟩
  rw [createFrom, hkind]
  exact hcreate

/-! ### One step after another -/

/-- Each step starts from the text that the step before it ended with, the first one from the given
text. -/
def IsSuccession : Option Text → List VersionStep → Prop
  | _, [] => True
  | start, step :: rest => step.previous = start ∧ IsSuccession (some step.current) rest

/-- The text that some steps end with. -/
def lastText (start : Option Text) : List VersionStep → Option Text
  | [] => start
  | step :: rest => lastText (some step.current) rest

/-- The steps of a session are the versions of a row, written down. -/
theorem session_raised {start : Option Text} {v? : Option Version} {kinds : List ReleaseKind}
    (hstart : start.mapM parse = .ok v?) (hshort : ∀ w ∈ raised v? kinds, w.isWritable = true)
    (more : List Json) :
    ∃ steps : List VersionStep,
      session (start.map .str) (kinds.map (fun k => .text k.word) ++ more) =
        steps.map .ok ++ session ((lastText start steps).map .str) more ∧
      steps.map (·.kind) = kinds ∧ IsSuccession start steps ∧
      (∀ step ∈ steps, ∃ s : String,
        Version.next (step.previous.map .str) step.kind = .ok s ∧ step.current = s) ∧
      steps.map (·.current) = (raised v? kinds).map fun w => Text.ofString w.print := by
  induction kinds generalizing start v? with
  | nil => exact ⟨[], rfl, rfl, trivial, by simp, rfl⟩
  | cons k kinds ih =>
    rw [raised] at hshort
    have hfirst := hshort _ List.mem_cons_self
    obtain ⟨step, hstep, hprevious, hcurrent, hkind⟩ := createFrom_successor hstart hfirst
    have hread : parse step.current = .ok (successor v? k) := by
      rw [hcurrent]
      exact parse_successor hfirst
    obtain ⟨steps, hsession, hkinds, hsuccession, htexts, hcurrents⟩ :=
      ih (mapM_parse hread) fun w hw => hshort w (List.mem_cons_of_mem _ hw)
    refine ⟨step :: steps, ?_, ?_, ⟨hprevious, hsuccession⟩, ?_, ?_⟩
    · rw [List.map_cons, List.cons_append, session, hstep]
      show Except.ok step :: session ((some step.current).map .str) _ = _
      rw [hsession]
      rfl
    · rw [List.map_cons, hkind, hkinds]
    · intro s hs
      rcases List.mem_cons.1 hs with rfl | hs
      · refine ⟨_, ?_, hcurrent⟩
        rw [hprevious, hkind]
        exact next_successor hstart hfirst
      · exact htexts s hs
    · rw [List.map_cons, raised, List.map_cons, hcurrent, hcurrents]

/-- In a session that starts from a version that can be read, or from none, every step succeeds as
long as the numbers can be written, whatever is asked for behind these steps.  It keeps the text
that it starts from and ends with the text of the next version, which is read as a release; and that
comes behind the version at the start and behind all versions before it, so none comes twice. -/
theorem session_rises {start : Option Text} {v? : Option Version} {kinds : List ReleaseKind}
    (hstart : start.mapM parse = .ok v?) (hshort : ∀ w ∈ raised v? kinds, w.isWritable = true)
    (more : List Json) :
    ∃ steps : List VersionStep,
      session (start.map .str) (kinds.map (fun k => .text k.word) ++ more) =
        steps.map .ok ++ session ((lastText start steps).map .str) more ∧
      steps.map (·.kind) = kinds ∧ IsSuccession start steps ∧
      (∀ step ∈ steps,
        (∃ s : String,
          Version.next (step.previous.map .str) step.kind = .ok s ∧ step.current = s) ∧
        (∃ w, parse step.current = .ok w ∧ w.prerelease = [] ∧ w.build = []) ∧
        step.current.head? ≠ some (.char 'v')) ∧
      (start.toList ++ steps.map (·.current)).Pairwise (fun earlier later =>
        compareGiven (.str later) (.str earlier) = .ok .gt) ∧
      (steps.map (·.current)).Nodup := by
  obtain ⟨steps, hsession, hkinds, hsuccession, htexts, hcurrents⟩ :=
    session_raised hstart hshort more
  have hwell : ∀ w ∈ raised v? kinds, w.WellFormed := fun w hw =>
    (isRelease_of_mem_raised hw).wellFormed (hshort w hw)
  have hbehind : ∀ {t : Text} {v w : Version}, parse t = .ok v → w ∈ raised v? kinds →
      precedence v w = .lt → compareGiven (.str w.print) (.str t) = .ok .gt := by
    intro t v w ht hw hlt
    rw [compareGiven_of_release ht (parse_print (hwell w hw))
      (isRelease_of_mem_raised hw).prerelease, Std.OrientedCmp.gt_of_lt hlt]
  refine ⟨steps, hsession, hkinds, hsuccession, fun step hstep => ⟨htexts step hstep, ?_⟩, ?_, ?_⟩
  · have hmem : step.current ∈ (raised v? kinds).map fun w => Text.ofString w.print := by
      rw [← hcurrents]
      exact List.mem_map_of_mem hstep
    obtain ⟨w, hw, hprint⟩ := List.mem_map.1 hmem
    have hrelease := isRelease_of_mem_raised hw
    rw [← hprint]
    exact ⟨⟨w, parse_print (hwell w hw), hrelease.prerelease, hrelease.build⟩,
      head?_print (hwell w hw)⟩
  · -- the row is in order, and the start, if there is one, comes before all of it
    rw [hcurrents, List.pairwise_append, List.pairwise_map]
    refine ⟨?_, ?_, ?_⟩
    · cases start <;> simp
    · refine (pairwise_raised v? kinds).imp_of_mem ?_
      intro v w hv hw hlt
      exact hbehind (parse_print (hwell v hv)) hw hlt
    · intro t ht u hu
      obtain ⟨w, hw, rfl⟩ := List.mem_map.1 hu
      cases start with
      | none => simp at ht
      | some s =>
        obtain rfl : t = s := by simpa using ht
        obtain ⟨v, hv, rfl⟩ := exists_of_mapM_parse hstart
        exact hbehind hv hw (precedence_of_mem_raised hw)
  · rw [hcurrents, List.Nodup, List.pairwise_map]
    refine (pairwise_raised v? kinds).imp_of_mem ?_
    intro v w hv hw hlt hsame
    have hread := parse_print (hwell v hv)
    rw [hsame, parse_print (hwell w hw)] at hread
    obtain rfl : w = v := Except.ok.inj hread
    have hself : precedence w w = .eq := Std.ReflCmp.compare_self
    rw [hself] at hlt
    cases hlt

/-- A candidate is promoted, and releases of other kinds follow. -/
theorem session_rises_candidate :
    (some (Text.ofString "v2.0.0-rc.1+5")).mapM parse = .ok (some ⟨2, 0, 0, ["rc", "1"], ["5"]⟩) ∧
      (∀ w ∈ raised (some ⟨2, 0, 0, ["rc", "1"], ["5"]⟩) [.major, .patch, .minor],
        w.isWritable = true) ∧
      ∃ steps : List VersionStep,
        session (some (.text "v2.0.0-rc.1+5")) [.text "major", .text "patch", .text "minor"] =
          steps.map .ok ∧
        IsSuccession (some (Text.ofString "v2.0.0-rc.1+5")) steps ∧
        (Text.ofString "v2.0.0-rc.1+5" :: steps.map (·.current)).Pairwise (fun earlier later =>
          compareGiven (.str later) (.str earlier) = .ok .gt) := by
  have hstart : (some (Text.ofString "v2.0.0-rc.1+5")).mapM parse =
      .ok (some ⟨2, 0, 0, ["rc", "1"], ["5"]⟩) :=
    mapM_parse (parse_of_match? (by decide +kernel) (by decide +kernel))
  have hshort : ∀ w ∈ raised (some ⟨2, 0, 0, ["rc", "1"], ["5"]⟩) [.major, .patch, .minor],
      w.isWritable = true := by
    decide +kernel
  obtain ⟨steps, hsession, -, hsuccession, -, hrises, -⟩ := session_rises hstart hshort []
  exact ⟨hstart, hshort, steps, hsession.trans (List.append_nil _), hsuccession, hrises⟩

end VersionStep
end ReleaseNotes
