/-
Values that are checked again.

What a model holds is written as its fields, and these pass the check of the model again, as the
very value: the fields of a commit, of a release, of a report on a tool and of a changelog are in
the spelling that the checks take as it is.

Main statements:
* `Check.stringOf_eq_ok_iff`, `Check.stringLike_eq_ok_iff`, `Check.list_eq_ok_iff`,
  `Check.nonEmptyList_eq_ok_iff` — restricted strings, and lists;
* `Release.of_check` — what a release is checked for;
* `Commit.check_toJson`, `Release.check_toJson`, `ToolReport.check_toJson`,
  `Changelog.check_toJson` — the fields of a value are checked to be the value.
-/
import ReleaseNotes.Proofs.Json.Layouts
import ReleaseNotes.Proofs.Release.Forward
import ReleaseNotes.Proofs.Validation.Passing
import ReleaseNotes.Release.Basic
import ReleaseNotes.Release.Changelog

namespace ReleaseNotes

variable {α : Type}

theorem Text.IsEncodable.hasByte_eq {t : Text} (h : t.IsEncodable) : t.hasByte = false := by
  refine List.any_eq_false.2 fun u hu => ?_
  obtain ⟨c, rfl⟩ := h u hu
  simp [TextUnit.isByte]

/-! ### Strings and lists -/

namespace Check

theorem text_str {t : Text} (h : t.IsEncodable) : text (.str t) = .ok t :=
  text_eq_ok_iff.2 ⟨rfl, h.hasByte_eq⟩

theorem string_eq_ok_iff {j : Json} {s : String} : string j = .ok s ↔ j = .text s := by
  cases j with
  | str t =>
    rw [string, Json.text, Json.str.injEq]
    cases hs : t.toString? with
    | none =>
      constructor
      · intro h
        cases h
      · rintro rfl
        rw [Text.toString?_ofString] at hs
        cases hs
    | some s' =>
      rw [Validated.ok.injEq, Text.toString?_eq_some_iff.1 hs, Text.ofString_inj]
  | _ => simp [string, refuse, Json.text]

theorem stringOf_eq_ok_iff {least : Nat} {j : Json} {s : String} :
    stringOf least j = .ok s ↔ j = .text s ∧ least ≤ s.length := by
  rw [stringOf, Validated.andThen_eq_ok_iff]
  constructor
  · rintro ⟨s', hs', h⟩
    split at h
    · cases h
    · next hlong =>
      cases h
      exact ⟨string_eq_ok_iff.1 hs', Nat.not_lt.1 hlong⟩
  · rintro ⟨hj, hlong⟩
    exact ⟨s, string_eq_ok_iff.2 hj, if_neg (Nat.not_lt.2 hlong)⟩

theorem stringLike_eq_ok_iff {pattern : String} {test : String → Bool} {j : Json} {s : String} :
    stringLike pattern test j = .ok s ↔ j = .text s ∧ test s = true := by
  rw [stringLike, Validated.andThen_eq_ok_iff]
  constructor
  · rintro ⟨s', hs', h⟩
    split at h
    · next htest =>
      cases h
      exact ⟨string_eq_ok_iff.1 hs', htest⟩
    · cases h
  · rintro ⟨hj, htest⟩
    exact ⟨s, string_eq_ok_iff.2 hj, if_pos htest⟩

variable {check : Check α}

theorem itemsFrom_eq_ok_iff {items : List Json} {l : List α} {i : Nat} :
    itemsFrom check i items = .ok l ↔ List.Forall₂ (fun j a => check j = .ok a) items l := by
  induction items generalizing l i with
  | nil => simp [itemsFrom, eq_comm]
  | cons j rest ih =>
    rw [itemsFrom, Validated.ap_eq_ok_iff, List.forall₂_cons_left_iff]
    simp only [Validated.map_eq_ok_iff, Validated.under_eq_ok_iff, ih]
    constructor
    · rintro ⟨f, as, ⟨a, ha, rfl⟩, has, rfl⟩
      exact ⟨a, as, ha, has, rfl⟩
    · rintro ⟨a, as, ha, has, rfl⟩
      exact ⟨List.cons a, as, ⟨a, ha, rfl⟩, has, rfl⟩

theorem list_eq_ok_iff {j : Json} {l : List α} :
    list check j = .ok l ↔
      ∃ items, j = .arr items ∧ List.Forall₂ (fun i a => check i = .ok a) items l := by
  cases j <;> simp [list, refuse, itemsFrom_eq_ok_iff]

theorem nonEmptyList_eq_ok_iff {j : Json} {l : { l : List α // l ≠ [] }} :
    nonEmptyList check j = .ok l ↔ list check j = .ok l.val := by
  rw [nonEmptyList, Validated.andThen_eq_ok_iff]
  obtain ⟨l, hl⟩ := l
  constructor
  · rintro ⟨as, has, h⟩
    cases as with
    | nil => cases h
    | cons a rest =>
      cases h
      exact has
  · intro h
    refine ⟨l, h, ?_⟩
    cases l with
    | nil => exact absurd rfl hl
    | cons a rest => rfl

/-- The list of the fields of some values is checked to be these values. -/
theorem list_map {toJson : α → Json} {l : List α} (h : ∀ a ∈ l, check (toJson a) = .ok a) :
    list check (.arr (l.map toJson)) = .ok l := by
  refine list_eq_ok_iff.2 ⟨_, rfl, ?_⟩
  rw [List.forall₂_map_left_iff, List.forall₂_same]
  exact h

theorem naturalFrom_nat {bound : Nat} (n : { n : Nat // bound ≤ n }) :
    naturalFrom bound (.nat n.val) = .ok n := by
  have hbound : (bound : Int) ≤ n.val := Int.ofNat_le.2 n.property
  simp [naturalFrom, atLeast, integer, Json.nat, Validated.andThen, Validated.map, hbound]

end Check

/-! ### Releases -/

/-- A hash that is not empty is all that a commit is checked for, beside the bytes in its texts. -/
theorem Commit.length_hash_of_check {j : Json} {c : Commit} (h : check j = .ok c) :
    1 ≤ c.hash.length := by
  obtain ⟨fields, -, h⟩ := Check.object_eq_ok_iff.1 h
  simp only [Validated.ap_eq_ok_iff, Validated.map_eq_ok_iff, Check.required_eq_ok_iff,
    Check.stringOf_eq_ok_iff] at h
  obtain ⟨_, _, ⟨_, _, ⟨_, _, ⟨_, _, ⟨_, _, ⟨hash, ⟨-, -, -, hlong⟩, rfl⟩, -, rfl⟩, -, rfl⟩, -,
    rfl⟩, -, rfl⟩, -, rfl⟩ := h
  exact hlong

theorem Commit.texts_toJson (c : Commit) :
    c.toJson.texts = [Text.ofString c.hash, c.subject, c.body, c.author, c.category] := rfl

theorem Commit.check_toJson {c : Commit} (hhash : 1 ≤ c.hash.length)
    (htexts : ∀ t ∈ c.toJson.texts, t.IsEncodable) : check c.toJson = .ok c := by
  simp only [texts_toJson, List.forall_mem_cons] at htexts
  obtain ⟨-, hsubject, hbody, hauthor, hcategory, -⟩ := htexts
  have hread : Check.stringOf 1 (.text c.hash) = .ok c.hash :=
    Check.stringOf_eq_ok_iff.2 ⟨rfl, hhash⟩
  refine Check.object_eq_ok_iff.2 ⟨_, rfl, ?_⟩
  rw [Check.required_eq_ok rfl hread, Check.required_eq_ok rfl (Check.text_str hsubject),
    Check.optional_eq_ok rfl (Check.text_str hbody),
    Check.required_eq_ok rfl (Check.text_str hauthor),
    Check.optional_eq_ok rfl (Check.text_str hcategory),
    Check.optional_eq_ok (j := .bool c.breaking) (a := c.breaking) rfl rfl]
  rfl

/-- What a release is checked for, beside the bytes in its texts. -/
theorem Release.of_check {j : Json} {r : Release} (h : check j = .ok r) :
    isRepository r.repository = true ∧ 2 ≤ r.language.length ∧
      ∀ c ∈ r.commits.val, 1 ≤ c.hash.length := by
  obtain ⟨fields, -, h⟩ := Check.object_eq_ok_iff.1 h
  simp only [Validated.ap_eq_ok_iff, Validated.map_eq_ok_iff, Check.required_eq_ok_iff,
    Check.optional_eq_ok_iff, Check.stringLike_eq_ok_iff, Check.stringOf_eq_ok_iff,
    Check.nonEmptyList_eq_ok_iff, Check.list_eq_ok_iff] at h
  obtain ⟨_, language, ⟨_, commits, ⟨_, kind, ⟨_, previous, ⟨repository, ⟨-, -, -, hrepository⟩,
    rfl⟩, -, rfl⟩, -, rfl⟩, ⟨-, -, items, -, hitems⟩, rfl⟩, hlanguage, rfl⟩ := h
  refine ⟨hrepository, ?_, ?_⟩
  · rcases hlanguage with ⟨-, rfl⟩ | ⟨-, -, -, hlong⟩
    · -- the language that is meant where none is told
      exact (by decide : 2 ≤ "en".length)
    · exact hlong
  · intro c hc
    obtain ⟨i, hi⟩ : ∃ i, Commit.check i = .ok c := by
      obtain ⟨k, hk, rfl⟩ := List.mem_iff_getElem.1 hc
      exact ⟨_, hitems.get (hitems.length_eq ▸ hk) hk⟩
    exact Commit.length_hash_of_check hi

/-- The texts of a release: its own, and those of its commits. -/
theorem Release.isEncodable_texts {r : Release} (h : ∀ t ∈ r.toJson.texts, t.IsEncodable) :
    (∀ t, r.previousVersion = some t → t.IsEncodable) ∧
      ∀ c ∈ r.commits.val, ∀ t ∈ c.toJson.texts, t.IsEncodable := by
  have htexts : r.toJson.texts = Text.ofString r.repository :: (r.previousVersion.toList ++
      ((r.kind.toList.map fun k => Text.ofString k.word) ++
        (Json.textsOfItems (r.commits.val.map Commit.toJson) ++ [Text.ofString r.language]))) := by
    unfold toJson
    cases r.previousVersion <;> cases r.kind <;>
      simp [Json.record, Json.texts, Json.textsOfFields, Json.text]
  rw [htexts] at h
  constructor
  · intro t ht
    exact h t (by simp [ht])
  · intro c hc t ht
    have hitem : t ∈ Json.textsOfItems (r.commits.val.map Commit.toJson) :=
      Json.mem_textsOfItems.2 ⟨_, List.mem_map_of_mem hc, ht⟩
    exact h t (by simp [hitem])

theorem Release.check_toJson {j : Json} {r : Release} (h : check j = .ok r)
    (htexts : ∀ t ∈ r.toJson.texts, t.IsEncodable) : check r.toJson = .ok r := by
  obtain ⟨hrepository, hlanguage, hhashes⟩ := of_check h
  obtain ⟨hprevious, hcommits⟩ := isEncodable_texts htexts
  have hrepo : Check.stringLike repositoryPattern isRepository (.text r.repository) =
      .ok r.repository := Check.stringLike_eq_ok_iff.2 ⟨rfl, hrepository⟩
  have hversion : Check.nullable Check.text (r.previousVersion.elim .null .str) =
      .ok r.previousVersion := by
    cases hp : r.previousVersion with
    | none => rfl
    | some t => exact congrArg (Validated.map some) (Check.text_str (hprevious t hp))
  have hkind : Check.nullable kindCheck (r.kind.elim .null fun k => .text k.word) = .ok r.kind := by
    cases r.kind with
    | none => rfl
    | some k => exact congrArg (Validated.map some) (VersionStep.kindCheck_eq_ok_iff.2 rfl)
  have hlist : Check.nonEmptyList Commit.check (.arr (r.commits.val.map Commit.toJson)) =
      .ok r.commits :=
    Check.nonEmptyList_eq_ok_iff.2
      (Check.list_map fun c hc => Commit.check_toJson (hhashes c hc) (hcommits c hc))
  have hnotes : Check.stringOf 2 (.text r.language) = .ok r.language :=
    Check.stringOf_eq_ok_iff.2 ⟨rfl, hlanguage⟩
  refine Check.object_eq_ok_iff.2 ⟨_, rfl, ?_⟩
  rw [Check.required_eq_ok rfl hrepo, Check.optional_eq_ok rfl hversion,
    Check.optional_eq_ok rfl hkind, Check.required_eq_ok rfl hlist,
    Check.optional_eq_ok rfl hnotes]
  rfl

/-! ### Changelogs -/

theorem ToolReport.check_toJson {r : ToolReport} (htool : r.tool.IsEncodable)
    (houtput : r.output.IsEncodable) : check r.toJson = .ok r := by
  refine Check.object_eq_ok_iff.2 ⟨_, rfl, ?_⟩
  rw [Check.required_eq_ok rfl (Check.naturalFrom_nat r.iteration),
    Check.required_eq_ok rfl (Check.text_str htool),
    Check.optional_eq_ok (j := .obj r.arguments) (a := r.arguments) rfl rfl,
    Check.required_eq_ok (j := .bool r.ok) (a := r.ok) rfl rfl,
    Check.optional_eq_ok rfl (Check.text_str houtput)]
  rfl

/-- The texts of a changelog: its own, and those of its reports. -/
theorem Changelog.isEncodable_texts {c : Changelog} (h : ∀ t ∈ c.toJson.texts, t.IsEncodable) :
    c.text.IsEncodable ∧ ∀ e ∈ c.reports, e.tool.IsEncodable ∧ e.output.IsEncodable := by
  have htexts : c.toJson.texts = c.version.toJson.texts ++ c.text ::
      Json.textsOfItems (c.reports.map ToolReport.toJson) := by
    simp [toJson, Json.record, Json.texts, Json.textsOfFields]
  rw [htexts] at h
  refine ⟨h _ (by simp), ?_⟩
  intro e he
  have hreport : ∀ t ∈ e.toJson.texts, t.IsEncodable := by
    intro t ht
    have hitem : t ∈ Json.textsOfItems (c.reports.map ToolReport.toJson) :=
      Json.mem_textsOfItems.2 ⟨_, List.mem_map_of_mem he, ht⟩
    exact h t (by simp [hitem])
  exact ⟨hreport _ (by simp [ToolReport.toJson, Json.record, Json.texts, Json.textsOfFields]),
    hreport _ (by simp [ToolReport.toJson, Json.record, Json.texts, Json.textsOfFields])⟩

theorem Changelog.check_toJson {c : Changelog} (htexts : ∀ t ∈ c.toJson.texts, t.IsEncodable) :
    check c.toJson = .ok c := by
  obtain ⟨htext, hreports⟩ := isEncodable_texts htexts
  have hlist : Check.list ToolReport.check (.arr (c.reports.map ToolReport.toJson)) =
      .ok c.reports :=
    Check.list_map fun e he => ToolReport.check_toJson (hreports e he).1 (hreports e he).2
  refine Check.object_eq_ok_iff.2 ⟨_, rfl, ?_⟩
  rw [Check.required_eq_ok rfl c.version.check_toJson,
    Check.required_eq_ok rfl (Check.text_str htext),
    Check.optional_eq_ok (j := .bool c.truncated) (a := c.truncated) rfl rfl,
    Check.optional_eq_ok (j := .int c.iterations) (a := c.iterations) rfl rfl,
    Check.optional_eq_ok rfl hlist]
  rfl

end ReleaseNotes
