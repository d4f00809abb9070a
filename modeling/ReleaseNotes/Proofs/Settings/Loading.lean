/-
Settings loaded from a file.

The document of a file is seen only as deep as settings lie, and no setting hangs on what lies
deeper.  So what is loaded from a file is told by its document, however much of it is seen.

Main statements:
* `Folder.Holds` — a file with a text;
* `Settings.Contains` — a file with a document;
* `Settings.load_eq_of_contains` — what is loaded from an object;
* `Settings.load_mapping` — the settings of a file that holds an object.
-/
import ReleaseNotes.Proofs.Settings.Fields
import ReleaseNotes.Proofs.Yaml.Depth

namespace ReleaseNotes

/-- A file with a text stands at a path of a folder. -/
structure Folder.Holds (folder : Folder) (path : Path) (text : String) : Prop where
  lacks : folder.lacks path = false
  read : folder.read path.text = .ok text

namespace Settings

variable {folder : Folder} {file : Option String} {text : String}

/-- The path of the file that is named, or of the standard one. -/
def pathOf (file : Option String) : Path := Path.ofText (file.getD standardFile)

theorem load_of_holds (h : folder.Holds (pathOf file) text) :
    load folder file = ofText (pathOf file).text text := by
  have hlacks : folder.lacks (Path.ofText (file.getD standardFile)) = false := h.lacks
  have hread : folder.read (Path.ofText (file.getD standardFile)).text = .ok text := h.read
  simp only [load, hlacks, hread]
  rfl

/-- The file is there and its text is that of a document, which is seen as deep as settings lie or
deeper. -/
def Contains (folder : Folder) (file : Option String) (document : Json) : Prop :=
  ∃ text n, folder.Holds (pathOf file) text ∧ depth ≤ n ∧ Yaml.read n text.toList = .ok document

/-! ### What lies too deep -/

theorem length_lt_depth_of_mem_sections : ∀ path ∈ sections, path.length < depth := by decide

theorem length_path_lt_depth (s : Setting) : s.path.length < depth := by
  cases s <;> decide

variable {j j' : Json}

/-- Documents that look alike as deep as settings lie agree where they lie. -/
theorem agree_of_alike (h : Json.Alike depth j j') : Agree j j' where
  sections path hpath := h.resembles_at? (length_lt_depth_of_mem_sections path hpath)
  settings s := h.resembles_at? (length_path_lt_depth s)

theorem agree_of_reordered (h : Json.Reordered j j') : Agree j j' where
  sections _ _ := h.resembles_at?
  settings _ := h.resembles_at?

/-! ### Objects -/

/-- An object without fields is void, and it sets nothing, as if it were looked at. -/
theorem ofDocument_obj (name : Text) (fields : Json.Fields) :
    ofDocument name (.obj fields) = match check (.obj fields) with
      | .ok c => .ok c
      | .bad problems => .error (.settingsInvalid name problems) := by
  cases fields <;> rfl

theorem ofDocument_obj_eq_ok_iff {name : Text} {fields : Json.Fields} {c : Settings} :
    ofDocument name (.obj fields) = .ok c ↔ check (.obj fields) = .ok c := by
  rw [ofDocument_obj]
  cases check (.obj fields) <;> simp

/-- What is loaded from an object is what another one makes, which agrees with it. -/
theorem load_eq_of_contains {fields : Json.Fields} (h : Contains folder file (.obj fields)) :
    ∃ others, Agree (.obj fields) (.obj others) ∧
      load folder file = ofDocument (pathOf file).text (.obj others) := by
  obtain ⟨text, n, hholds, hn, hread⟩ := h
  obtain ⟨seen, hseen, halike⟩ := Yaml.read_alike hn (Nat.le_refl _) hread
  -- at the depth of settings the document is still an object
  obtain ⟨others, rfl⟩ : ∃ others, seen = .obj others := by
    rcases halike.cases_of_succ with ⟨_, _, hlist, -⟩ | ⟨_, others, -, rfl, -⟩ | rfl
    · cases hlist
    · exact ⟨others, rfl⟩
    · exact ⟨fields, rfl⟩
  refine ⟨others, agree_of_alike halike, ?_⟩
  rw [load_of_holds hholds, ofText, hseen]

theorem load_eq_ok_iff {fields : Json.Fields} (h : Contains folder file (.obj fields))
    {c : Settings} : load folder file = .ok c ↔ check (.obj fields) = .ok c := by
  obtain ⟨others, hagree, hload⟩ := load_eq_of_contains h
  rw [hload, ofDocument_obj_eq_ok_iff, check_eq_ok_congr hagree]

/-- An object that settings cannot be read off is told as what is wrong with it. -/
theorem load_of_not_isValid {fields : Json.Fields} (h : Contains folder file (.obj fields))
    (hinvalid : ¬ IsValid (.obj fields)) :
    ∃ problems, load folder file = .error (.settingsInvalid (pathOf file).text problems) := by
  obtain ⟨others, hagree, hload⟩ := load_eq_of_contains h
  rw [hload, ofDocument_obj]
  rw [isValid_congr hagree, ← exists_check_iff] at hinvalid
  cases hcheck : check (.obj others) with
  | ok c => exact absurd ⟨c, hcheck⟩ hinvalid
  | bad problems => exact ⟨problems, rfl⟩

/-! ### The settings of a file -/

/-- The bounds that loops, waits and patches rely on. -/
structure IsBounded (c : Settings) : Prop where
  maxIterations : 1 ≤ c.dialogue.maxIterations.val
  attempts : 1 ≤ c.dialogue.retry.attempts.val
  initialDelay : (0.0 : Float) ≤ c.dialogue.retry.initialDelay.val
  backoffFactor : (1.0 : Float) ≤ c.dialogue.retry.backoffFactor.val
  maxPatch : 100 ≤ c.maxPatch.val

theorem isBounded (c : Settings) : IsBounded c where
  maxIterations := c.dialogue.maxIterations.property
  attempts := c.dialogue.retry.attempts.property
  initialDelay := c.dialogue.retry.initialDelay.property
  backoffFactor := c.dialogue.retry.backoffFactor.property
  maxPatch := c.maxPatch.property

/-- Settings are loaded from a file that holds an object exactly if each section that is there is an
object and each setting that is there is good by itself; otherwise the loading fails, and the
failure is one of a value.  Each setting that is there is set to what it is checked to be, and each
other one is left at its standard value, and they are within their bounds.  Nothing else hangs on
the document: two files whose documents agree where settings lie make the same, above all if one
document is the other with its fields in another order, and if only the place of one setting has the
same, that setting is the same. -/
theorem load_mapping {fields : Json.Fields} (h : Contains folder file (.obj fields)) :
    ((∃ c, load folder file = .ok c) ↔ IsValid (.obj fields)) ∧
    (¬ IsValid (.obj fields) → ∃ f, load folder file = .error f ∧ f.isValue = true) ∧
    (∀ c, load folder file = .ok c → IsReadOff (.obj fields) c ∧ IsBounded c) ∧
    ∀ (folder' : Folder) (file' : Option String) (others : Json.Fields),
      Contains folder' file' (.obj others) →
        (Agree (.obj fields) (.obj others) ∨ Json.Reordered (.obj fields) (.obj others) →
          ∀ c, load folder file = .ok c ↔ load folder' file' = .ok c) ∧
        ∀ c c', load folder file = .ok c → load folder' file' = .ok c' →
          ∀ s : Setting, (Json.obj fields).at? s.path = (Json.obj others).at? s.path →
            s.of c = s.of c' := by
  have hreadOff : ∀ {folder' : Folder} {file' : Option String} {others : Json.Fields}
      {c' : Settings}, Contains folder' file' (.obj others) → load folder' file' = .ok c' →
        IsReadOff (.obj others) c' :=
    fun h' hc' => (check_eq_ok_iff.1 ((load_eq_ok_iff h').1 hc')).2
  refine ⟨?_, fun hinvalid => ?_, fun c hc => ⟨hreadOff h hc, isBounded c⟩,
    fun folder' file' others h' => ⟨fun hsame c => ?_, fun c c' hc hc' s hplace => ?_⟩⟩
  · rw [← exists_check_iff]
    exact exists_congr fun c => load_eq_ok_iff h
  · obtain ⟨problems, hload⟩ := load_of_not_isValid h hinvalid
    exact ⟨_, hload, rfl⟩
  · rw [load_eq_ok_iff h, load_eq_ok_iff h']
    exact check_eq_ok_congr (hsame.elim id agree_of_reordered)
  · have hset := hreadOff h hc s
    rw [hplace] at hset
    exact hset.unique (hreadOff h' hc' s)

/-- A text in blocks. -/
def blockText : String := "max_patch_chars: 200\norchestrator:\n  retry:\n    attempts: 7\n"

/-- A text in brackets, with its settings in another order. -/
def flowText : String := "orchestrator: \x7bretry: \x7battempts: 7\x7d\x7d\nmax_patch_chars: 200"

/-- A folder with both texts. -/
def twoFiles : Folder := Folder.ofFiles [
  (Path.ofText "cfg.yaml", some blockText), (Path.ofText "new.yaml", some flowText)]

/-- The limit of patches among fields. -/
def patchField : Text × Json := ("max_patch_chars", .int 200)

/-- The number of attempts among fields. -/
def attemptsField : Text × Json :=
  ("orchestrator", .record [("retry", .record [("attempts", .int 7)])])

/-- Whether a document has these two fields. -/
def hasBoth : Except Yaml.Fault Json → Bool
  | .ok (.obj [(patch, .int n), (orchestrator, .obj [(retry, .obj [(attempts, .int k)])])]) =>
    patch == "max_patch_chars" && n == 200 && orchestrator == "orchestrator" && retry == "retry" &&
      attempts == "attempts" && k == 7
  | _ => false

/-- A document of two fields, with the second one first. -/
def swapped : Except Yaml.Fault Json → Except Yaml.Fault Json
  | .ok (.obj [f, g]) => .ok (.obj [g, f])
  | read => read

theorem eq_of_hasBoth {read : Except Yaml.Fault Json} (h : hasBoth read = true) :
    read = .ok (.obj [patchField, attemptsField]) := by
  unfold hasBoth at h
  split at h
  · simp only [Bool.and_eq_true, beq_iff_eq] at h
    obtain ⟨⟨⟨⟨⟨rfl, rfl⟩, rfl⟩, rfl⟩, rfl⟩, rfl⟩ := h
    rfl
  · cases h

theorem eq_of_swapped_eq {read : Except Yaml.Fault Json} {f g : Text × Json}
    (h : swapped read = .ok (.obj [f, g])) : read = .ok (.obj [g, f]) := by
  unfold swapped at h
  split at h
  · cases h
    rfl
  · next hne => exact absurd h (hne f g)

/-- Two files that set the same in two orders make the same settings. -/
theorem load_mapping_two : ∃ c, load twoFiles (some "cfg.yaml") = .ok c ∧
    load twoFiles (some "new.yaml") = .ok c ∧ c.maxPatch.val = 200 ∧
    c.dialogue.retry.attempts.val = 7 ∧ c.dialogue.maxIterations.val = 5 := by
  have hblock : Contains twoFiles (some "cfg.yaml") (.obj [patchField, attemptsField]) :=
    ⟨blockText, depth, ⟨by decide +kernel, rfl⟩, Nat.le_refl _, eq_of_hasBoth (by decide +kernel)⟩
  have hflow : Contains twoFiles (some "new.yaml") (.obj [attemptsField, patchField]) :=
    ⟨flowText, depth, ⟨by decide +kernel, rfl⟩, Nat.le_refl _,
      eq_of_swapped_eq (eq_of_hasBoth (by decide +kernel))⟩
  obtain ⟨hloads, -, hread, hother⟩ := load_mapping hblock
  obtain ⟨c, hc⟩ := hloads.2 (exists_check_iff.1 ⟨_, rfl⟩)
  have horder : Json.Reordered (.obj [patchField, attemptsField])
      (.obj [attemptsField, patchField]) := .of_perm (.swap ..) (by decide)
  have hset : IsReadOff (.obj [patchField, attemptsField]) c := (hread c hc).1
  have hpatch : (⟨200, by decide⟩ : { n : Nat // 100 ≤ n }) = c.maxPatch :=
    Validated.ok.inj (hset .maxPatch)
  have hattempts : (⟨7, by decide⟩ : { n : Nat // 1 ≤ n }) = c.dialogue.retry.attempts :=
    Validated.ok.inj (hset .attempts)
  have hmost : standard.dialogue.maxIterations = c.dialogue.maxIterations := hset .maxIterations
  exact ⟨c, hc, ((hother _ _ _ hflow).1 (.inr horder) c).1 hc, congrArg Subtype.val hpatch.symm,
    congrArg Subtype.val hattempts.symm, congrArg Subtype.val hmost.symm⟩

end Settings
end ReleaseNotes
