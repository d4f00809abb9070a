/-
What the loading of settings ends with.

The text of a file makes settings, or the loading fails.  It should make them only from nothing and
from an object, and fail with a failure of a value otherwise.  But every void document counts as
nothing, and what comes out of the building of a value comes out of the loading as well.

Main statements:
* `Settings.IsStrict` — the loading as it should be;
* `Settings.load_text` — what it ends with, and when it is as it should be.
-/
import ReleaseNotes.Proofs.Settings.Loading
import ReleaseNotes.Proofs.Yaml.Faults

namespace ReleaseNotes

theorem Yaml.isA_eq_false_of_mem_strayKinds :
    ∀ kind ∈ Yaml.strayKinds, kind.isA "ValueError" = false := by
  decide

namespace Settings

variable {folder : Folder} {file : Option String} {text : String}

/-- Settings are loaded only from nothing or from an object that they can be read off, and the
loading fails with nothing but a failure of a value. -/
structure IsStrict (folder : Folder) (file : Option String) (text : String) : Prop where
  loaded : ∀ c, load folder file = .ok c → ∃ document, Yaml.read depth text.toList = .ok document ∧
    (document = .null ∨ ∃ fields, document = .obj fields ∧ IsValid document)
  failed : ∀ f, load folder file = .error f → f.isValue = true

/-! ### Documents -/

theorem load_of_read {document : Json} (h : folder.Holds (pathOf file) text)
    (hread : Yaml.read depth text.toList = .ok document) :
    load folder file = ofDocument (pathOf file).text document := by
  rw [load_of_holds h, ofText, hread]

theorem ofDocument_of_isVoid {document : Json} (h : document.isVoid = true) (name : Text) :
    ofDocument name document = .ok standard := by
  rw [ofDocument, if_pos h]
  rfl

theorem ofDocument_eq_ok_iff {document : Json} (h : document.isVoid = false) {name : Text}
    {c : Settings} : ofDocument name document = .ok c ↔
      ∃ fields, document = .obj fields ∧ IsSectioned document ∧ IsReadOff document c := by
  cases document with
  | obj fields =>
    rw [ofDocument_obj_eq_ok_iff, check_eq_ok_iff]
    constructor
    · exact fun hread => ⟨fields, rfl, hread⟩
    · rintro ⟨_, _, hread⟩
      exact hread
  | _ =>
    rw [ofDocument, if_neg (by simp [h])]
    constructor
    · nofun
    · rintro ⟨_, hobj, -⟩
      cases hobj

theorem isValue_of_ofDocument {document : Json} {name : Text} {f : Failure}
    (h : ofDocument name document = .error f) : f.isValue = true := by
  unfold ofDocument at h
  split at h
  · cases h
  · cases h
    rfl

/-! ### Texts that are refused -/

theorem load_of_malformed (h : folder.Holds (pathOf file) text)
    (hread : Yaml.read depth text.toList = .error .malformed) :
    load folder file = .error (.settingsSyntax (pathOf file).text) := by
  rw [load_of_holds h, ofText, hread]

theorem load_of_unbuildable {f : Failure} (h : folder.Holds (pathOf file) text)
    (hread : Yaml.read depth text.toList = .error (.unbuildable f)) :
    load folder file = .error f := by
  rw [load_of_holds h, ofText, hread]

theorem ends_read {P : Yaml.Fault → Prop} {cs : List Char} {fault : Yaml.Fault}
    (h : Yaml.Ends P (fun _ => True) (Yaml.built cs)) (hread : Yaml.read depth cs = .error fault) :
    P fault := by
  unfold Yaml.read at hread
  cases hbuilt : Yaml.built cs with
  | ok b =>
    rw [hbuilt] at hread
    cases hread
  | error other =>
    rw [hbuilt] at h hread
    cases hread
    cases h with
    | error hfault => exact hfault

/-- A failure that is loaded is one of a value, or it came out of the building of the document. -/
theorem isValue_or_of_load {f : Failure} (h : folder.Holds (pathOf file) text)
    (hload : load folder file = .error f) :
    f.isValue = true ∨ Yaml.read depth text.toList = .error (.unbuildable f) := by
  cases hread : Yaml.read depth text.toList with
  | ok document =>
    rw [load_of_read h hread] at hload
    exact .inl (isValue_of_ofDocument hload)
  | error fault =>
    cases fault with
    | malformed =>
      rw [load_of_malformed h hread] at hload
      cases hload
      exact .inl rfl
    | unbuildable g =>
      rw [load_of_unbuildable h hread] at hload
      cases hload
      exact .inr rfl

/-! ### All texts -/

theorem isStrict_iff (h : folder.Holds (pathOf file) text) : IsStrict folder file text ↔
    (∀ document, Yaml.read depth text.toList = .ok document → document.isVoid = true →
      document = .null ∨ ∃ fields, document = .obj fields) ∧
    ∀ f, Yaml.read depth text.toList = .error (.unbuildable f) → f.kind = .value := by
  constructor
  · rintro ⟨hloaded, hfailed⟩
    refine ⟨fun document hread hvoid => ?_, fun f hread => ?_⟩
    · -- a void document makes settings, whatever it is
      have hload := load_of_read h hread
      rw [ofDocument_of_isVoid hvoid] at hload
      obtain ⟨other, hother, hnull | ⟨fields, hfields, -⟩⟩ := hloaded _ hload
      · exact .inl (Except.ok.inj (hread.symm.trans hother) ▸ hnull)
      · exact .inr ⟨fields, Except.ok.inj (hread.symm.trans hother) ▸ hfields⟩
    · rcases ends_read (Yaml.ends_built text.toList) hread with hkind | hkind
      · exact hkind
      · -- none of the other known kinds is one of a value
        have hvalue := hfailed f (load_of_unbuildable h hread)
        rw [Failure.isValue, Yaml.isA_eq_false_of_mem_strayKinds _ hkind] at hvalue
        cases hvalue
  · rintro ⟨hvoids, hkinds⟩
    refine ⟨fun c hload => ?_, fun f hload => ?_⟩
    · cases hread : Yaml.read depth text.toList with
      | error fault =>
        cases fault with
        | malformed =>
          rw [load_of_malformed h hread] at hload
          cases hload
        | unbuildable f =>
          rw [load_of_unbuildable h hread] at hload
          cases hload
      | ok document =>
        refine ⟨document, rfl, ?_⟩
        rw [load_of_read h hread] at hload
        cases hvoid : document.isVoid with
        | true =>
          refine (hvoids document hread hvoid).imp id ?_
          rintro ⟨fields, rfl⟩
          refine ⟨fields, rfl, exists_check_iff.1 ⟨c, ?_⟩⟩
          exact ofDocument_obj_eq_ok_iff.1 hload
        | false =>
          obtain ⟨fields, rfl, hread⟩ := (ofDocument_eq_ok_iff hvoid).1 hload
          exact .inr ⟨fields, rfl, exists_check_iff.1 ⟨c, check_eq_ok_iff.2 hread⟩⟩
    · rcases isValue_or_of_load h hload with hvalue | hread
      · exact hvalue
      · rw [Failure.isValue, hkinds f hread]
        rfl

/-- What the loading of a file ends with, for each text.  A void document, whatever it is, makes the
standard settings; any other one makes settings exactly if it is an object that they can be read
off, and is refused with a failure of a value if not, and so is a text that is malformed.  If a
value cannot be built, the failure is that of the building, which is one of a value or of a few
other kinds; it is one of a value if the text has no tag and no escape, is neither nested nor merged
too deep and has no number of too many parts.
So the loading is as it should be exactly if the document is not void, unless it is null or an
object, and no failure but one of a value comes out of its building. -/
theorem load_text (h : folder.Holds (pathOf file) text) :
    (∀ document, Yaml.read depth text.toList = .ok document →
      (document.isVoid = true → load folder file = .ok standard) ∧
      (document.isVoid = false → ∀ c, load folder file = .ok c ↔
        ∃ fields, document = .obj fields ∧ IsSectioned document ∧ IsReadOff document c) ∧
      ∀ f, load folder file = .error f → f.isValue = true) ∧
    (Yaml.read depth text.toList = .error .malformed →
      ∃ f, load folder file = .error f ∧ f.isValue = true) ∧
    (∀ f, Yaml.read depth text.toList = .error (.unbuildable f) → load folder file = .error f ∧
      (f.kind = .value ∨ f.kind ∈ Yaml.strayKinds)) ∧
    ('!' ∉ text.toList → '\\' ∉ text.toList → Yaml.isShallow text.toList = true →
      ∀ f, load folder file = .error f → f.isValue = true) ∧
    (IsStrict folder file text ↔
      (∀ document, Yaml.read depth text.toList = .ok document → document.isVoid = true →
        document = .null ∨ ∃ fields, document = .obj fields) ∧
      ∀ f, Yaml.read depth text.toList = .error (.unbuildable f) → f.kind = .value) := by
  refine ⟨fun document hread => ?_, fun hread => ⟨_, load_of_malformed h hread, rfl⟩,
    fun f hread => ⟨load_of_unbuildable h hread, ends_read (Yaml.ends_built _) hread⟩,
    fun htag hescape hshallow f hload => ?_, isStrict_iff h⟩
  · rw [load_of_read h hread]
    exact ⟨fun hvoid => ofDocument_of_isVoid hvoid _, fun hvoid c => ofDocument_eq_ok_iff hvoid,
      fun f => isValue_of_ofDocument⟩
  · rcases isValue_or_of_load h hload with hvalue | hread
    · exact hvalue
    · have hkind : f.kind = .value :=
        ends_read (Yaml.ends_built_untagged htag hescape hshallow) hread
      rw [Failure.isValue, hkind]
      rfl

/-- A folder of files that hold no settings. -/
def strayFiles : Folder := Folder.ofFiles [
  (Path.ofText "items.yaml", some "- a"), (Path.ofText "void.yaml", some "[]"),
  (Path.ofText "tag.yaml", some "!!bool x")]

/-- Whether a document is a list of so many items. -/
def isListOf (length : Nat) : Except Yaml.Fault Json → Bool
  | .ok (.arr items) => items.length == length
  | _ => false

theorem exists_of_isListOf {length : Nat} {read : Except Yaml.Fault Json}
    (h : isListOf length read = true) :
    ∃ items, read = .ok (.arr items) ∧ items.length = length := by
  unfold isListOf at h
  split at h
  · next items => exact ⟨items, rfl, eq_of_beq h⟩
  · cases h

/-- A list with an item is refused, with a failure of a value as any shallow text without tags and
escapes. -/
theorem load_text_items : Yaml.isShallow "- a".toList = true ∧
    ∃ f, load strayFiles (some "items.yaml") = .error f ∧ f.isValue = true := by
  have hholds : strayFiles.Holds (pathOf (some "items.yaml")) "- a" := ⟨by decide +kernel, rfl⟩
  obtain ⟨items, hread, hlength⟩ :=
    exists_of_isListOf (show isListOf 1 (Yaml.read depth "- a".toList) = true by decide +kernel)
  have hvoid : (Json.arr items).isVoid = false := by
    cases items with
    | nil => cases hlength
    | cons _ _ => rfl
  have hshallow : Yaml.isShallow "- a".toList = true := by decide +kernel
  obtain ⟨hloaded, -, -, hfailed, -⟩ := load_text hholds
  cases hload : load strayFiles (some "items.yaml") with
  | ok c =>
    obtain ⟨fields, hobj, -⟩ := ((hloaded _ hread).2.1 hvoid c).1 hload
    cases hobj
  | error f => exact ⟨hshallow, f, rfl, hfailed (by decide) (by decide) hshallow f hload⟩

/-- Whether the building of a document ends with the failure of a key. -/
def isKeyFault : Except Yaml.Fault Json → Bool
  | .error (.unbuildable f) => f.kind = .key
  | _ => false

theorem exists_of_isKeyFault {read : Except Yaml.Fault Json} (h : isKeyFault read = true) :
    ∃ f, read = .error (.unbuildable f) ∧ f.kind = .key := by
  unfold isKeyFault at h
  split at h
  · next f => exact ⟨f, rfl, of_decide_eq_true h⟩
  · cases h

/-- A list without items makes the standard settings, and a word that is tagged as a truth value but
is none makes the loading fail with the failure of a key. -/
theorem not_isStrict_strayFiles :
    (strayFiles.Holds (pathOf (some "void.yaml")) "[]" ∧
      load strayFiles (some "void.yaml") = .ok standard ∧
      ¬ IsStrict strayFiles (some "void.yaml") "[]") ∧
    strayFiles.Holds (pathOf (some "tag.yaml")) "!!bool x" ∧
      (∃ f, load strayFiles (some "tag.yaml") = .error f ∧ f.kind = .key) ∧
      ¬ IsStrict strayFiles (some "tag.yaml") "!!bool x" := by
  have hvoid : strayFiles.Holds (pathOf (some "void.yaml")) "[]" := ⟨by decide +kernel, rfl⟩
  have htag : strayFiles.Holds (pathOf (some "tag.yaml")) "!!bool x" := ⟨by decide +kernel, rfl⟩
  obtain ⟨items, hlist, hlength⟩ :=
    exists_of_isListOf (show isListOf 0 (Yaml.read depth "[]".toList) = true by decide +kernel)
  obtain rfl := List.eq_nil_of_length_eq_zero hlength
  obtain ⟨f, hfault, hkind⟩ :=
    exists_of_isKeyFault
      (show isKeyFault (Yaml.read depth "!!bool x".toList) = true by decide +kernel)
  have hload := load_of_unbuildable htag hfault
  refine ⟨⟨hvoid, ?_, fun hstrict => ?_⟩, htag, ⟨f, hload, hkind⟩, fun hstrict => ?_⟩
  · rw [load_of_read hvoid hlist]
    exact ofDocument_of_isVoid rfl _
  · rcases ((isStrict_iff hvoid).1 hstrict).1 _ hlist rfl with hnull | ⟨_, hobj⟩
    · cases hnull
    · cases hobj
  · have hvalue := hstrict.failed f hload
    rw [Failure.isValue, hkind] at hvalue
    cases hvalue

end Settings
end ReleaseNotes
