/-
Settings one by one.

The settings lie in sections of a document, and each of them is looked at by itself: it has the
value that stands at its place, checked, or its standard value if none stands there.  So the
settings can be read off a document exactly if all sections are objects and each setting that is
there is good, and nothing else in the document matters.

Main statements:
* `Setting` — the settings with their places, their checks and their values;
* `Settings.IsSectioned`, `Settings.IsValid`, `Settings.IsReadOff` — documents that settings can be
  read off;
* `Settings.check_eq_ok_iff` — how all settings are read;
* `Settings.exists_check_iff`, `Settings.check_eq_ok_congr` — whether they can be read, and what
  they hang on.
-/
import Mathlib.Tactic.Common
import ReleaseNotes.Proofs.Json.Places
import ReleaseNotes.Proofs.Validation.Passing
import ReleaseNotes.Settings.Load

namespace ReleaseNotes

variable {α : Type}

/-! ### Values and their places -/

/-- The fields of an object that may be absent. -/
def Json.fieldsOf : Option Json → Json.Fields
  | some (.obj fields) => fields
  | _ => []

theorem Json.lookup_fieldsOf (name : String) (given : Option Json) :
    Json.lookup name (Json.fieldsOf given) = given.bind fun j => j.field? name := by
  cases given with
  | none => rfl
  | some j => cases j <;> rfl

/-- What may be absent is an object if it is there. -/
def Json.IsSection (given : Option Json) : Prop := ∀ j, given = some j → ∃ fields, j = .obj fields

/-- A value that may be absent counts as another one: as what it is checked to be, or as the default
if it is absent. -/
def Check.Fills (check : Check α) (default : α) (given : Option Json) (a : α) : Prop :=
  match given with
  | some j => check j = .ok a
  | none => default = a

namespace Check

theorem optional_eq_ok_iff_fills {fields : Json.Fields} {name : String} {default : α}
    {check : Check α} {a : α} :
    optional fields name default check = .ok a ↔
      check.Fills default (Json.lookup name fields) a := by
  rw [optional_eq_ok_iff]
  cases Json.lookup name fields <;> simp [Fills]

/-- A section that is absent counts like one that is empty. -/
theorem fills_object_iff {model : String} {read : Json.Fields → Validated α} {default : α}
    (hempty : read [] = .ok default) {given : Option Json} {a : α} :
    (object model read).Fills default given a ↔
      Json.IsSection given ∧ read (Json.fieldsOf given) = .ok a := by
  cases given with
  | none => simp [Fills, Json.IsSection, Json.fieldsOf, hempty]
  | some j => cases j <;> simp [Fills, Json.IsSection, Json.fieldsOf, object, refuse]

theorem Fills.unique {check : Check α} {default : α} {given : Option Json} {a b : α}
    (ha : check.Fills default given a) (hb : check.Fills default given b) : a = b := by
  unfold Fills at ha hb
  cases given with
  | none => exact ha.symm.trans hb
  | some j =>
    dsimp only at ha hb
    exact Validated.ok.inj (ha.symm.trans hb)

end Check

/-! ### The settings -/

/-- The settings. -/
inductive Setting where
  | model
  | temperature
  | maxTokens
  | key
  | timeout
  | maxIterations
  | attempts
  | initialDelay
  | backoffFactor
  | maxPatch
  deriving DecidableEq, Repr

namespace Setting

/-- What a setting is set to. -/
def Value : Setting → Type
  | model => Text
  | temperature => Float
  | maxTokens => Int
  | key => Option Text
  | timeout => Float
  | maxIterations => { n : Nat // 1 ≤ n }
  | attempts => { n : Nat // 1 ≤ n }
  | initialDelay => { x : Float // (0.0 : Float) ≤ x }
  | backoffFactor => { x : Float // (1.0 : Float) ≤ x }
  | maxPatch => { n : Nat // 100 ≤ n }

/-- The place of a setting in a document. -/
def path : Setting → List String
  | model => ["llm", "model"]
  | temperature => ["llm", "temperature"]
  | maxTokens => ["llm", "max_tokens"]
  | key => ["llm", "api_key"]
  | timeout => ["llm", "timeout"]
  | maxIterations => ["orchestrator", "max_iterations"]
  | attempts => ["orchestrator", "retry", "attempts"]
  | initialDelay => ["orchestrator", "retry", "initial_delay"]
  | backoffFactor => ["orchestrator", "retry", "backoff_factor"]
  | maxPatch => ["max_patch_chars"]

/-- The check of a setting. -/
def check : (s : Setting) → Check s.Value
  | model => Check.text
  | temperature => Check.number
  | maxTokens => Check.integer
  | key => Check.nullable Check.text
  | timeout => Check.number
  | maxIterations => Check.naturalFrom 1
  | attempts => Check.naturalFrom 1
  | initialDelay => RetryPolicy.delayCheck
  | backoffFactor => RetryPolicy.factorCheck
  | maxPatch => Check.naturalFrom 100

/-- What a setting is set to among all settings. -/
def of : (s : Setting) → Settings → s.Value
  | model, c => c.languageModel.name
  | temperature, c => c.languageModel.temperature
  | maxTokens, c => c.languageModel.maxTokens
  | key, c => c.languageModel.key
  | timeout, c => c.languageModel.timeout
  | maxIterations, c => c.dialogue.maxIterations
  | attempts, c => c.dialogue.retry.attempts
  | initialDelay, c => c.dialogue.retry.initialDelay
  | backoffFactor, c => c.dialogue.retry.backoffFactor
  | maxPatch, c => c.maxPatch

end Setting

namespace Settings

/-- All settings, each set by itself. -/
def ofAll (value : (s : Setting) → s.Value) : Settings where
  languageModel := ⟨value .model, value .temperature, value .maxTokens, value .key, value .timeout⟩
  dialogue := ⟨value .maxIterations, ⟨value .attempts, value .initialDelay, value .backoffFactor⟩⟩
  maxPatch := value .maxPatch

theorem of_ofAll (value : (s : Setting) → s.Value) (s : Setting) :
    s.of (ofAll value) = value s := by
  cases s <;> rfl

/-- The places of the sections. -/
def sections : List (List String) := [["llm"], ["orchestrator"], ["orchestrator", "retry"]]

/-- Every section of a document is an object, as far as it is there. -/
def IsSectioned (j : Json) : Prop := ∀ path ∈ sections, Json.IsSection (j.at? path)

/-- Settings are read off a document, each by itself. -/
def IsReadOff (j : Json) (c : Settings) : Prop :=
  ∀ s : Setting, s.check.Fills (s.of standard) (j.at? s.path) (s.of c)

/-- Settings can be read off a document: its sections are objects, and each setting that is there is
good. -/
structure IsValid (j : Json) : Prop where
  isSectioned : IsSectioned j
  good : ∀ (s : Setting) (part : Json), j.at? s.path = some part → ∃ v, s.check part = .ok v

end Settings

/-! ### The sections -/

theorem ModelSettings.fills_check_iff {given : Option Json} {m : ModelSettings} :
    ModelSettings.check.Fills .standard given m ↔ Json.IsSection given ∧
      Check.text.Fills ModelSettings.standard.name (given.bind fun j => j.field? "model") m.name ∧
      Check.number.Fills ModelSettings.standard.temperature
        (given.bind fun j => j.field? "temperature") m.temperature ∧
      Check.integer.Fills ModelSettings.standard.maxTokens
        (given.bind fun j => j.field? "max_tokens") m.maxTokens ∧
      (Check.nullable Check.text).Fills ModelSettings.standard.key
        (given.bind fun j => j.field? "api_key") m.key ∧
      Check.number.Fills ModelSettings.standard.timeout
        (given.bind fun j => j.field? "timeout") m.timeout := by
  refine (Check.fills_object_iff (by rfl)).trans (and_congr_right fun _ => ?_)
  simp only [Validated.ap_eq_ok_iff, Validated.map_eq_ok_iff, Check.optional_eq_ok_iff_fills,
    Json.lookup_fieldsOf]
  constructor
  · rintro ⟨_, _, ⟨_, _, ⟨_, _, ⟨_, _, ⟨_, hname, rfl⟩, htemperature, rfl⟩, hmost, rfl⟩, hkey, rfl⟩,
      htimeout, rfl⟩
    exact ⟨hname, htemperature, hmost, hkey, htimeout⟩
  · rintro ⟨hname, htemperature, hmost, hkey, htimeout⟩
    exact ⟨_, _, ⟨_, _, ⟨_, _, ⟨_, _, ⟨_, hname, rfl⟩, htemperature, rfl⟩, hmost, rfl⟩, hkey, rfl⟩,
      htimeout, rfl⟩

theorem RetryPolicy.fills_check_iff {given : Option Json} {p : RetryPolicy} :
    RetryPolicy.check.Fills .standard given p ↔ Json.IsSection given ∧
      (Check.naturalFrom 1).Fills RetryPolicy.standard.attempts
        (given.bind fun j => j.field? "attempts") p.attempts ∧
      delayCheck.Fills RetryPolicy.standard.initialDelay
        (given.bind fun j => j.field? "initial_delay") p.initialDelay ∧
      factorCheck.Fills RetryPolicy.standard.backoffFactor
        (given.bind fun j => j.field? "backoff_factor") p.backoffFactor := by
  refine (Check.fills_object_iff (by rfl)).trans (and_congr_right fun _ => ?_)
  simp only [Validated.ap_eq_ok_iff, Validated.map_eq_ok_iff, Check.optional_eq_ok_iff_fills,
    Json.lookup_fieldsOf]
  constructor
  · rintro ⟨_, _, ⟨_, _, ⟨_, hattempts, rfl⟩, hdelay, rfl⟩, hfactor, rfl⟩
    exact ⟨hattempts, hdelay, hfactor⟩
  · rintro ⟨hattempts, hdelay, hfactor⟩
    exact ⟨_, _, ⟨_, _, ⟨_, hattempts, rfl⟩, hdelay, rfl⟩, hfactor, rfl⟩

theorem DialogueSettings.fills_check_iff {given : Option Json} {s : DialogueSettings} :
    DialogueSettings.check.Fills .standard given s ↔ Json.IsSection given ∧
      (Check.naturalFrom 1).Fills DialogueSettings.standard.maxIterations
        (given.bind fun j => j.field? "max_iterations") s.maxIterations ∧
      RetryPolicy.check.Fills .standard (given.bind fun j => j.field? "retry") s.retry := by
  refine (Check.fills_object_iff (by rfl)).trans (and_congr_right fun _ => ?_)
  simp only [Validated.ap_eq_ok_iff, Validated.map_eq_ok_iff, Check.optional_eq_ok_iff_fills,
    Json.lookup_fieldsOf]
  constructor
  · rintro ⟨_, _, ⟨_, hmost, rfl⟩, hretry, rfl⟩
    exact ⟨hmost, hretry⟩
  · rintro ⟨hmost, hretry⟩
    exact ⟨_, _, ⟨_, hmost, rfl⟩, hretry, rfl⟩

/-! ### All settings -/

namespace Settings

theorem check_obj_iff {fields : Json.Fields} {c : Settings} :
    check (.obj fields) = .ok c ↔
      ModelSettings.check.Fills .standard (Json.lookup "llm" fields) c.languageModel ∧
      DialogueSettings.check.Fills .standard (Json.lookup "orchestrator" fields) c.dialogue ∧
      (Check.naturalFrom 100).Fills standard.maxPatch (Json.lookup "max_patch_chars" fields)
        c.maxPatch := by
  rw [check, Check.object]
  simp only [Validated.ap_eq_ok_iff, Validated.map_eq_ok_iff, Check.optional_eq_ok_iff_fills]
  constructor
  · rintro ⟨_, _, ⟨_, _, ⟨_, hmodel, rfl⟩, hdialogue, rfl⟩, hpatch, rfl⟩
    exact ⟨hmodel, hdialogue, hpatch⟩
  · rintro ⟨hmodel, hdialogue, hpatch⟩
    exact ⟨_, _, ⟨_, _, ⟨_, hmodel, rfl⟩, hdialogue, rfl⟩, hpatch, rfl⟩

/-- All settings are read by reading each of them off its place. -/
theorem check_eq_ok_iff {fields : Json.Fields} {c : Settings} :
    check (.obj fields) = .ok c ↔ IsSectioned (.obj fields) ∧ IsReadOff (.obj fields) c := by
  rw [check_obj_iff, ModelSettings.fills_check_iff, DialogueSettings.fills_check_iff,
    RetryPolicy.fills_check_iff]
  constructor
  · rintro ⟨⟨hmodel, hname, htemperature, htokens, hkey, htimeout⟩,
      ⟨hdialogue, hmost, hretry, hattempts, hdelay, hfactor⟩, hpatch⟩
    refine ⟨List.forall_mem_cons.2 ⟨hmodel, List.forall_mem_cons.2 ⟨hdialogue,
      List.forall_mem_cons.2 ⟨hretry, nofun⟩⟩⟩, fun s => ?_⟩
    cases s with
    | model => exact hname
    | temperature => exact htemperature
    | maxTokens => exact htokens
    | key => exact hkey
    | timeout => exact htimeout
    | maxIterations => exact hmost
    | attempts => exact hattempts
    | initialDelay => exact hdelay
    | backoffFactor => exact hfactor
    | maxPatch => exact hpatch
  · rintro ⟨hsections, hread⟩
    obtain ⟨hmodel, hrest⟩ := List.forall_mem_cons.1 hsections
    obtain ⟨hdialogue, hrest⟩ := List.forall_mem_cons.1 hrest
    obtain ⟨hretry, -⟩ := List.forall_mem_cons.1 hrest
    exact ⟨⟨hmodel, hread .model, hread .temperature, hread .maxTokens, hread .key, hread .timeout⟩,
      ⟨hdialogue, hread .maxIterations, hretry, hread .attempts, hread .initialDelay,
        hread .backoffFactor⟩, hread .maxPatch⟩

/-- Settings can be read off an object exactly if they are valid. -/
theorem exists_check_iff {fields : Json.Fields} :
    (∃ c, check (.obj fields) = .ok c) ↔ IsValid (.obj fields) := by
  constructor
  · rintro ⟨c, hc⟩
    obtain ⟨hsections, hread⟩ := check_eq_ok_iff.1 hc
    refine ⟨hsections, fun s part hpart => ⟨s.of c, ?_⟩⟩
    have hset := hread s
    rwa [hpart] at hset
  · rintro ⟨hsections, hgood⟩
    have hvalues : ∀ s : Setting, ∃ v,
        s.check.Fills (s.of standard) ((Json.obj fields).at? s.path) v := by
      intro s
      cases hpart : (Json.obj fields).at? s.path with
      | none => exact ⟨s.of standard, rfl⟩
      | some part =>
        obtain ⟨v, hv⟩ := hgood s part hpart
        exact ⟨v, hv⟩
    -- since each setting is read by itself, any choice of their values makes up all settings
    choose value hvalue using hvalues
    refine ⟨ofAll value, check_eq_ok_iff.2 ⟨hsections, fun s => ?_⟩⟩
    rw [of_ofAll]
    exact hvalue s

/-! ### What settings hang on -/

/-- Two documents agree where settings lie: there is the same at the place of each section and of
each setting, or two objects, or two lists, or nothing. -/
structure Agree (j j' : Json) : Prop where
  sections : ∀ path ∈ sections, Option.Rel Json.Resembles (j.at? path) (j'.at? path)
  settings : ∀ s : Setting, Option.Rel Json.Resembles (j.at? s.path) (j'.at? s.path)

end Settings

theorem Json.isSection_congr {given given' : Option Json}
    (h : Option.Rel Json.Resembles given given') :
    Json.IsSection given ↔ Json.IsSection given' := by
  cases h with
  | none => rfl
  | @some j j' h => cases j <;> cases j' <;> simp_all [Json.Resembles, Json.IsSection]

/-- No setting is a list or an object. -/
theorem Setting.check_eq_ok_congr {j j' : Json} (h : Json.Resembles j j') (s : Setting)
    {v : s.Value} : s.check j = .ok v ↔ s.check j' = .ok v := by
  have harr : ∀ items, s.check (.arr items) ≠ .ok v := by cases s <;> nofun
  have hobj : ∀ fields, s.check (.obj fields) ≠ .ok v := by cases s <;> nofun
  cases j <;> cases j' <;> simp_all [Json.Resembles]

theorem Setting.fills_congr {given given' : Option Json}
    (h : Option.Rel Json.Resembles given given') (s : Setting) {default v : s.Value} :
    s.check.Fills default given v ↔ s.check.Fills default given' v := by
  cases h with
  | none => rfl
  | some h => exact s.check_eq_ok_congr h

namespace Settings

variable {j j' : Json}

theorem isSectioned_congr (h : Agree j j') : IsSectioned j ↔ IsSectioned j' :=
  forall₂_congr fun path hpath => Json.isSection_congr (h.sections path hpath)

theorem isReadOff_congr (h : Agree j j') {c : Settings} : IsReadOff j c ↔ IsReadOff j' c :=
  forall_congr' fun s => s.fills_congr (h.settings s)

/-- Nothing but what stands at the places of sections and settings matters. -/
theorem check_eq_ok_congr {fields others : Json.Fields} (h : Agree (.obj fields) (.obj others))
    {c : Settings} : check (.obj fields) = .ok c ↔ check (.obj others) = .ok c := by
  rw [check_eq_ok_iff, check_eq_ok_iff, isSectioned_congr h, isReadOff_congr h]

theorem isValid_congr {fields others : Json.Fields} (h : Agree (.obj fields) (.obj others)) :
    IsValid (.obj fields) ↔ IsValid (.obj others) := by
  rw [← exists_check_iff, ← exists_check_iff]
  exact exists_congr fun c => check_eq_ok_congr h

end Settings

end ReleaseNotes
