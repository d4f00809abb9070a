/-
Patches cut to a limit.

The tool that shows the diff of a commit shows all of its files, each with its patch as far as the
limit allows: a patch that is too long is cut so that there is room for the ellipsis behind it.  A
patch that was cut fits, so cutting it once more changes nothing, and whatever of a patch is shown
within one limit is also shown within a wider one.

Main statements:
* `Patch.IsCut` — a text as it is shown within a limit;
* `Patch.isCut_truncate`, `Patch.IsCut.eq_truncate` — texts are shown so, and in no other way;
* `Patch.truncate_truncate` — a text is cut only once;
* `Patch.truncate_isPrefix_mono` — a wider limit shows no less;
* `CommitDiff.told` — a commit and its patches as the object that the model is told;
* `CommitTools.diff_reported` — what a call for the diff of a commit comes to.
-/
import ReleaseNotes.Proofs.GitHub.Commits

namespace ReleaseNotes

/-! ### One patch -/

namespace Patch

/-- A text as it is shown within a limit: whole if it fits, and otherwise exactly as long as the
limit, with its own beginning and the ellipsis at its end. -/
structure IsCut (limit : Int) (t shown : Text) : Prop where
  whole : (t.length : Int) ≤ limit → shown = t
  length : limit < t.length → (shown.length : Int) = limit
  beginning : limit < t.length → shown.take (limit - 3).toNat = t.take (limit - 3).toNat
  ending : limit < t.length → Text.ofString "..." <:+ shown

theorem ellipsis_eq : ellipsis = List.replicate 3 (TextUnit.char '.') := by decide

variable {limit : Int} {t : Text}

theorem truncate_of_le (h : (t.length : Int) ≤ limit) : truncate limit t = t := by
  rw [truncate, if_pos h]

theorem truncate_of_lt (hlimit : 3 ≤ limit) (h : limit < t.length) :
    truncate limit t = t.take (limit - 3).toNat ++ ellipsis := by
  have hplace : limit - (ellipsis.length : Int) = limit - 3 := by rw [ellipsis_eq]; rfl
  rw [truncate, if_neg (by omega), before, hplace, if_pos (by omega)]

theorem isCut_truncate (hlimit : 3 ≤ limit) (t : Text) : IsCut limit t (truncate limit t) where
  whole h := truncate_of_le h
  length h := by
    rw [truncate_of_lt hlimit h, List.length_append, List.length_take, ellipsis_eq,
      List.length_replicate]
    omega
  beginning h := by
    have hlength : (t.take (limit - 3).toNat).length = (limit - 3).toNat := by
      rw [List.length_take]
      omega
    rw [truncate_of_lt hlimit h, List.take_append_of_le_length hlength.ge, List.take_take,
      Nat.min_self]
  ending h := by
    rw [truncate_of_lt hlimit h]
    exact List.suffix_append _ _

/-- A text that is shown within a limit fits. -/
theorem IsCut.length_le {shown : Text} (h : IsCut limit t shown) :
    (shown.length : Int) ≤ limit := by
  by_cases hfits : (t.length : Int) ≤ limit
  · rw [h.whole hfits]
    exact hfits
  · exact (h.length (by omega)).le

/-- There is one way to show a text within a limit. -/
theorem IsCut.eq_truncate {shown : Text} (h : IsCut limit t shown) (hlimit : 3 ≤ limit) :
    shown = truncate limit t := by
  by_cases hfits : (t.length : Int) ≤ limit
  · rw [truncate_of_le hfits]
    exact h.whole hfits
  have hlong : limit < t.length := by omega
  -- the ellipsis is all that stands behind the beginning
  obtain ⟨front, hfront⟩ := h.ending hlong
  have hlength := h.length hlong
  have hellipsis : (Text.ofString "...").length = 3 := rfl
  have hplace : front.length = (limit - 3).toNat := by
    rw [← hfront, List.length_append, hellipsis] at hlength
    omega
  have hbeginning := h.beginning hlong
  rw [← hfront, ← hplace, List.take_left] at hbeginning
  rw [truncate_of_lt hlimit hlong, ← hplace, ← hbeginning, ← hfront]
  rfl

theorem eq_map_truncate_of_forall₂ {texts patches : List Text} (hlimit : 3 ≤ limit)
    (h : List.Forall₂ (IsCut limit) texts patches) : patches = texts.map (truncate limit) := by
  have heq : List.Forall₂ (fun t shown => truncate limit t = shown) texts patches :=
    h.imp fun _ _ hcut => (hcut.eq_truncate hlimit).symm
  rw [← List.forall₂_map_left_iff (R := (· = ·)), List.forall₂_eq_eq_eq] at heq
  exact heq.symm

theorem truncate_truncate (hlimit : 3 ≤ limit) (t : Text) :
    truncate limit (truncate limit t) = truncate limit t :=
  truncate_of_le (isCut_truncate hlimit t).length_le

/-- Whatever beginning of a text is shown within a limit is also shown within a wider one. -/
theorem truncate_isPrefix_mono {wider : Int} (hlimit : 3 ≤ limit) (hwider : limit ≤ wider)
    {beginning : Text} (h : beginning <+: t) (hshown : beginning <+: truncate limit t) :
    beginning <+: truncate wider t := by
  by_cases hfits : (t.length : Int) ≤ wider
  · rw [truncate_of_le hfits]
    exact h
  have hlength : beginning.length ≤ limit := by
    have := hshown.length_le
    have := (isCut_truncate hlimit t).length_le
    omega
  rw [truncate_of_lt hlimit (by omega)] at hshown
  rw [truncate_of_lt (by omega) (by omega)]
  rw [List.prefix_iff_getElem?] at h hshown ⊢
  intro i hi
  by_cases hplace : i < (wider - 3).toNat
  · rw [List.getElem?_append_left (by rw [List.length_take]; omega),
      List.getElem?_take_of_lt hplace]
    exact h i hi
  · -- the text itself has points here, since within the narrower limit it agrees with the ellipsis
    have hpoint := hshown i hi
    rw [List.getElem?_append_right (by rw [List.length_take]; omega), ellipsis_eq,
      List.getElem?_replicate, if_pos (by rw [List.length_take]; omega)] at hpoint
    rw [List.getElem?_append_right (by rw [List.length_take]; omega), ellipsis_eq,
      List.getElem?_replicate, if_pos (by rw [List.length_take]; omega), hpoint]

end Patch

/-! ### The diff of a commit -/

/-- A file as the model is told it, with such a patch. -/
def ChangedFile.told (f : ChangedFile) (patch : Text) : Json :=
  .record [("path", .str f.path), ("status", .str f.status), ("additions", .nat f.additions),
    ("deletions", .nat f.deletions), ("patch", .str patch)]

/-- A commit as the model is told it, with such patches of its files. -/
def CommitDiff.told (d : CommitDiff) (patches : List Text) : Json :=
  .record [("sha", .str d.sha), ("message", .str d.message), ("author", .str d.author),
    ("files", .arr (List.zipWith ChangedFile.told d.files patches))]

/-- Whatever beginning of a patch is shown, file by file, is also shown within a wider limit. -/
def Patch.ShowNoLess (patches narrow wide : List Text) : Prop :=
  ∀ (i : Nat) (patch shown more : Text), patches[i]? = some patch → narrow[i]? = some shown →
    wide[i]? = some more → ∀ beginning, beginning <+: patch → beginning <+: shown →
      beginning <+: more

namespace CommitTools

variable {limit : Int}

/-- The patches of a commit as they are shown within a limit. -/
def shownPatches (limit : Int) (d : CommitDiff) : List Text :=
  d.files.map fun f => Patch.truncate limit f.patch

theorem toJson_shownDiff (limit : Int) (d : CommitDiff) :
    (shownDiff limit d).toJson = d.told (shownPatches limit d) := by
  have hfiles : List.zipWith ChangedFile.told d.files (shownPatches limit d) =
      (d.files.map (shownFile limit)).map ChangedFile.toJson := by
    rw [shownPatches, List.zipWith_map_right, List.zipWith_self, List.map_map]
    rfl
  rw [CommitDiff.told, hfiles]
  rfl

theorem isCut_shownPatches (hlimit : 3 ≤ limit) (d : CommitDiff) :
    List.Forall₂ (Patch.IsCut limit) (d.files.map ChangedFile.patch) (shownPatches limit d) := by
  rw [shownPatches, List.forall₂_map_left_iff, List.forall₂_map_right_iff, List.forall₂_same]
  intro f _
  exact Patch.isCut_truncate hlimit f.patch

theorem truncate_shownPatches (hlimit : 3 ≤ limit) (d : CommitDiff) :
    (shownPatches limit d).map (Patch.truncate limit) = shownPatches limit d := by
  have hfile : Patch.truncate limit ∘ (fun f : ChangedFile => Patch.truncate limit f.patch) =
      fun f => Patch.truncate limit f.patch := by
    funext f
    exact Patch.truncate_truncate hlimit f.patch
  rw [shownPatches, List.map_map, hfile]

theorem showNoLess_shownPatches {wider : Int} (hlimit : 3 ≤ limit) (hwider : limit ≤ wider)
    (d : CommitDiff) : Patch.ShowNoLess (d.files.map ChangedFile.patch) (shownPatches limit d)
      (shownPatches wider d) := by
  intro i patch shown more hpatch hshown hmore beginning hbeginning
  simp only [shownPatches, List.getElem?_map, Option.map_eq_some_iff] at hpatch hshown hmore
  obtain ⟨f, hf, rfl⟩ := hpatch
  obtain ⟨_, hf', rfl⟩ := hshown
  obtain ⟨_, hf'', rfl⟩ := hmore
  obtain rfl := Option.some.inj (hf.symm.trans hf')
  obtain rfl := Option.some.inj (hf.symm.trans hf'')
  exact Patch.truncate_isPrefix_mono hlimit hwider hbeginning

/-- A call for the diff of a commit returns an object that tells the commit with every file, in order
and with its counts, and with its patch cut to the limit.  No patch is cut any more within the
limit, and whatever beginning of a patch is shown is also shown within a wider limit. -/
theorem diff_reported (hlimit : 3 ≤ limit) (d : CommitDiff) :
    ∃ patches : List Text,
      Returns "get_commit_diff" limit d (d.told patches) ∧
      List.Forall₂ (Patch.IsCut limit) (d.files.map ChangedFile.patch) patches ∧
      patches.map (Patch.truncate limit) = patches ∧
      ∀ wider, limit ≤ wider → ∃ more : List Text,
        Returns "get_commit_diff" wider d (d.told more) ∧
        List.Forall₂ (Patch.IsCut wider) (d.files.map ChangedFile.patch) more ∧
        Patch.ShowNoLess (d.files.map ChangedFile.patch) patches more := by
  have hreturns : ∀ limit, Returns "get_commit_diff" limit d (d.told (shownPatches limit d)) := by
    intro limit
    rw [← toJson_shownDiff]
    exact CommitTool.diff.returns_shows limit d
  refine ⟨shownPatches limit d, hreturns limit, isCut_shownPatches hlimit d,
    truncate_shownPatches hlimit d, ?_⟩
  intro wider hwider
  exact ⟨shownPatches wider d, hreturns wider, isCut_shownPatches (hlimit.trans hwider) d,
    showNoLess_shownPatches hlimit hwider d⟩

/-- An answer that tells a commit of three files, whose patches hold points. -/
def pointedAnswer : WebAnswer := .response 200 [] ("\x7b\"sha\": \"abcd\", \"files\": [" ++
  "\x7b\"filename\": \"a.py\", \"additions\": 3, \"patch\": \"ab...\"\x7d, " ++
  "\x7b\"filename\": \"b.py\", \"status\": \"added\", \"patch\": \"ab...c\"\x7d, " ++
  "\x7b\"filename\": \"c.py\", \"deletions\": 2, \"patch\": \"abcdef\"\x7d]\x7d")

/-- The commit of this answer. -/
def pointed : CommitDiff := ⟨"abcd", [], [], [⟨"a.py", "modified", 3, 0, "ab..."⟩,
  ⟨"b.py", "added", 0, 0, "ab...c"⟩, ⟨"c.py", "modified", 0, 2, "abcdef"⟩]⟩

theorem read_pointedAnswer (target : Target) (sha : Text) :
    GitHubClient.read target sha pointedAnswer = .ok pointed := by
  have hcommit : GitHubClient.commit? pointedAnswer = some pointed := by decide +kernel
  rw [← GitHubClient.toOption_read target sha] at hcommit
  cases hread : GitHubClient.read target sha pointedAnswer with
  | ok d =>
    rw [hread] at hcommit
    cases hcommit
    rfl
  | error f =>
    rw [hread] at hcommit
    cases hcommit

/-- Within a limit of five a patch of five characters is whole, and two longer ones are cut. -/
theorem diff_reported_pointed :
    List.Forall₂ (Patch.IsCut 5) (["ab...", "ab...c", "abcdef"] : List Text)
        ["ab...", "ab...", "ab..."] ∧
      ∃ ran request, ((registry (GitHubClient.source ⟨"", 30.0⟩ Wire.scripted.transport)
          "owner/name" 5).execute "get_commit_diff" (.record [("sha", .text "abcd")])).run
          (fun _ => pointedAnswer) =
        ⟨.ok (.data (pointed.told ["ab...", "ab...", "ab..."])), fun _ => pointedAnswer,
          [ran, .requested request]⟩ := by
  have htarget : Target.of (GitHubClient.address "owner/name" "abcd") =
      .ok ⟨"/repos/owner/name/commits/abcd", none⟩ := by decide +kernel
  have hfetched := GitHubClient.source_run (c := ⟨"", 30.0⟩) rfl htarget Wire.scripted
    fun _ => pointedAnswer
  rw [show (Wire.scripted _ fun _ => pointedAnswer).1 = pointedAnswer from rfl,
    read_pointedAnswer] at hfetched
  have hlimit : (3 : Int) ≤ 5 := by omega
  have hlong : 4 ≤ "abcd".length := by decide
  have hgiven : Json.lookup (Text.ofString "sha") [(Text.ofString "sha", .text "abcd")] =
      some (.text "abcd") := rfl
  obtain ⟨patches, hreturns, hcut, -, -⟩ := diff_reported hlimit pointed
  obtain ⟨ran, hran⟩ := hreturns _ "owner/name" hgiven hlong hfetched
  have hpatches : patches = ["ab...", "ab...", "ab..."] := by
    rw [Patch.eq_map_truncate_of_forall₂ hlimit hcut]
    decide
  rw [hpatches] at hcut hran
  exact ⟨hcut, ran, _, hran⟩

end CommitTools

end ReleaseNotes
