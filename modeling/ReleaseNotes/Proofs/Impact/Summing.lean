/-
The impact of files put together.

The impact of a commit is made of what each of its files contributes.  So the impact of a commit whose
files are those of two others is put together from theirs, and the order of the files is of no
importance to it.

Main statements:
* `CommitSize.rank_ofLines_mono` — more changed lines are no smaller commit;
* `CommitDiff.additions_eq_sum`, `CommitDiff.deletions_eq_sum` — the lines of a commit are those of
  its files;
* `Impact.IsSum` — an impact is put together from two others;
* `Impact.isSum_ofDiff`, `Impact.ofDiff_eq_of_perm` — files put together, and files in another order;
* `Impact.IsPutTogether` — what is told of a commit is put together from what is told of two others;
* `Impact.returns_append` — what calls for the impacts of such commits return.
-/
import Mathlib.Algebra.BigOperators.Group.List.Basic
import Mathlib.Algebra.GroupWithZero.Nat
import Mathlib.Tactic.Common
import ReleaseNotes.Proofs.GitHub.Commits
import ReleaseNotes.Proofs.Impact.Areas

namespace ReleaseNotes

/-- The rank of a size among the sizes. -/
def CommitSize.rank : CommitSize → Nat
  | small => 0
  | medium => 1
  | large => 2

theorem CommitSize.rank_ofLines_mono {m n : Int} (h : m ≤ n) :
    (ofLines m).rank ≤ (ofLines n).rank := by
  unfold ofLines
  split
  · exact Nat.zero_le _
  · next hm =>
    rw [if_neg (by omega : ¬ n < 50)]
    split
    · split <;> decide
    · next hlarge => rw [if_neg (by omega : ¬ n < 500)]

namespace CommitDiff

theorem additions_eq_sum (d : CommitDiff) : d.additions = (d.files.map ChangedFile.additions).sum := by
  rw [additions, List.sum, List.foldr_map]

theorem deletions_eq_sum (d : CommitDiff) : d.deletions = (d.files.map ChangedFile.deletions).sum := by
  rw [deletions, List.sum, List.foldr_map]

end CommitDiff

namespace Impact

/-- An impact is put together from two others of one commit: the counts are added, the size is no
smaller than theirs, and of the areas each stands there once, in ascending order. -/
structure IsSum (whole left right : Impact) : Prop where
  sha_left : whole.sha = left.sha
  sha_right : whole.sha = right.sha
  files : whole.files = left.files + right.files
  additions : whole.additions = left.additions + right.additions
  deletions : whole.deletions = left.deletions + right.deletions
  tests : whole.tests = (left.tests || right.tests)
  docs : whole.docs = (left.docs || right.docs)
  dependencies : whole.dependencies = (left.dependencies || right.dependencies)
  left_size_le : left.size.rank ≤ whole.size.rank
  right_size_le : right.size.rank ≤ whole.size.rank
  ascending : Text.Ascending whole.areas
  mem_areas : ∀ a, a ∈ whole.areas ↔ a ∈ left.areas ∨ a ∈ right.areas

section

variable {left right whole : CommitDiff}

theorem pathsOf_append (h : whole.files = left.files ++ right.files) :
    pathsOf whole = pathsOf left ++ pathsOf right := by
  rw [pathsOf, h, List.map_append]
  rfl

theorem isSum_ofDiff (hleft : whole.sha = left.sha) (hright : whole.sha = right.sha)
    (h : whole.files = left.files ++ right.files) :
    (ofDiff whole).IsSum (ofDiff left) (ofDiff right) := by
  have hadditions : whole.additions = left.additions + right.additions := by
    simp only [CommitDiff.additions_eq_sum, h, List.map_append, List.sum_append]
  have hdeletions : whole.deletions = left.deletions + right.deletions := by
    simp only [CommitDiff.deletions_eq_sum, h, List.map_append, List.sum_append]
  have hlines : (ofDiff whole).additions + (ofDiff whole).deletions =
      ((ofDiff left).additions + (ofDiff left).deletions) +
        ((ofDiff right).additions + (ofDiff right).deletions) := by
    show whole.additions + whole.deletions = _
    rw [hadditions, hdeletions]
    exact Nat.add_add_add_comm _ _ _ _
  have hpaths := pathsOf_append h
  have hany : ∀ test : Path → Bool, (pathsOf whole).any test =
      ((pathsOf left).any test || (pathsOf right).any test) := by
    intro test
    rw [hpaths, List.any_append]
  exact
  { sha_left := hleft
    sha_right := hright
    files := by
      show whole.files.length = _
      rw [h, List.length_append]
      rfl
    additions := hadditions
    deletions := hdeletions
    tests := hany isTest
    docs := hany isDocument
    dependencies := hany isManifest
    left_size_le := CommitSize.rank_ofLines_mono (by omega)
    right_size_le := CommitSize.rank_ofLines_mono (by omega)
    ascending := ascending_areasOf _
    mem_areas := by
      intro a
      show a ∈ areasOf (pathsOf whole) ↔ _
      rw [hpaths]
      simp only [mem_areasOf, ofDiff, List.mem_append, or_and_right, exists_or] }

/-- A commit with its files in another order has the same impact. -/
theorem ofDiff_eq_of_perm {other : CommitDiff} (hsha : other.sha = whole.sha)
    (h : other.files.Perm whole.files) : ofDiff other = ofDiff whole := by
  have hpaths : (pathsOf other).Perm (pathsOf whole) := h.map _
  have hadditions : other.additions = whole.additions := by
    rw [CommitDiff.additions_eq_sum, CommitDiff.additions_eq_sum]
    exact (h.map _).sum_eq
  have hdeletions : other.deletions = whole.deletions := by
    rw [CommitDiff.deletions_eq_sum, CommitDiff.deletions_eq_sum]
    exact (h.map _).sum_eq
  have hany : ∀ test : Path → Bool, (pathsOf other).any test = (pathsOf whole).any test :=
    fun test => hpaths.any_eq
  simp only [ofDiff, hsha, h.length_eq, hadditions, hdeletions, areasOf_eq_of_perm hpaths, hany]

theorem mem_areas_ofDiff_ne_point {a : Text} (ha : a ≠ Text.ofString ".") :
    a ∈ (ofDiff whole).areas ↔
      ∃ f ∈ whole.files, ∃ rest, rest ≠ [] ∧ (Path.ofText f.path).parts = a :: rest := by
  have hareas : (ofDiff whole).areas =
      areasOf ((whole.files.map ChangedFile.path).map Path.ofText) := by
    rw [List.map_map]
    rfl
  rw [hareas, mem_areasOf_ne_point ha]
  simp only [List.mem_map, exists_exists_and_eq_and]

theorem point_mem_areas_ofDiff : Text.ofString "." ∈ (ofDiff whole).areas ↔
    ∃ f ∈ whole.files, (Path.ofText f.path).parts.length ≤ 1 := by
  have hareas : (ofDiff whole).areas =
      areasOf ((whole.files.map ChangedFile.path).map Path.ofText) := by
    rw [List.map_map]
    rfl
  rw [hareas, point_mem_areasOf]
  simp only [List.mem_map, exists_exists_and_eq_and]

end

/-! ### What is told of a commit -/

/-- A count that is told of a commit is the sum of those of two others. -/
def AddsUp (name : String) (whole left right : Json) : Prop :=
  ∃ m n : Nat, left.field? name = some (.nat m) ∧ right.field? name = some (.nat n) ∧
    whole.field? name = some (.nat (m + n))

/-- A flag of a commit is told exactly if it is told of one of two others. -/
def IsEither (name : String) (whole left right : Json) : Prop :=
  ∃ b c : Bool, left.field? name = some (.bool b) ∧ right.field? name = some (.bool c) ∧
    whole.field? name = some (.bool (b || c))

/-- The sizes of commits, the smallest first. -/
def sizes : List String := ["small", "medium", "large"]

/-- The size of a commit with so many changed lines. -/
inductive IsSize : Nat → String → Prop
  | small {lines : Nat} (h : lines < 50) : IsSize lines "small"
  | medium {lines : Nat} (low : 50 ≤ lines) (high : lines < 500) : IsSize lines "medium"
  | large {lines : Nat} (h : 500 ≤ lines) : IsSize lines "large"

/-- The size that is told of a commit is that of all lines that are told as added or deleted, and no
smaller than those of two others. -/
def OutgrowsBoth (whole left right : Json) : Prop :=
  ∃ (added deleted : Nat) (s l r : String), whole.field? "additions" = some (.nat added) ∧
    whole.field? "deletions" = some (.nat deleted) ∧ IsSize (added + deleted) s ∧
    whole.field? "size" = some (.text s) ∧ left.field? "size" = some (.text l) ∧
    right.field? "size" = some (.text r) ∧
    sizes.idxOf l ≤ sizes.idxOf s ∧ sizes.idxOf r ≤ sizes.idxOf s

/-- The areas that are told of a commit are those of two others, each once and in ascending order. -/
def IsMerged (whole left right : Json) : Prop :=
  ∃ areas ls rs : List Text, left.field? "areas" = some (.arr (ls.map .str)) ∧
    right.field? "areas" = some (.arr (rs.map .str)) ∧
    whole.field? "areas" = some (.arr (areas.map .str)) ∧
    Text.Ascending areas ∧ ∀ a, a ∈ areas ↔ a ∈ ls ∨ a ∈ rs

/-- What is told of a commit is put together from what is told of two others. -/
structure IsPutTogether (whole left right : Json) : Prop where
  sha_left : whole.field? "sha" = left.field? "sha"
  sha_right : whole.field? "sha" = right.field? "sha"
  files_changed : AddsUp "files_changed" whole left right
  additions : AddsUp "additions" whole left right
  deletions : AddsUp "deletions" whole left right
  touches_tests : IsEither "touches_tests" whole left right
  touches_docs : IsEither "touches_docs" whole left right
  touches_dependencies : IsEither "touches_dependencies" whole left right
  size : OutgrowsBoth whole left right
  areas : IsMerged whole left right

theorem isSize_ofLines (lines : Nat) : IsSize lines (CommitSize.ofLines lines).word := by
  unfold CommitSize.ofLines
  split
  · exact .small (by omega)
  · split
    · exact .medium (by omega) (by omega)
    · exact .large (by omega)

theorem idxOf_word (s : CommitSize) : sizes.idxOf s.word = s.rank := by
  cases s <;> decide

theorem IsSum.isPutTogether {whole left right : Impact} (h : whole.IsSum left right) :
    IsPutTogether whole.toJson left.toJson right.toJson where
  sha_left := congrArg (fun t => some (Json.str t)) h.sha_left
  sha_right := congrArg (fun t => some (Json.str t)) h.sha_right
  files_changed := ⟨_, _, rfl, rfl, congrArg (fun n => some (Json.nat n)) h.files⟩
  additions := ⟨_, _, rfl, rfl, congrArg (fun n => some (Json.nat n)) h.additions⟩
  deletions := ⟨_, _, rfl, rfl, congrArg (fun n => some (Json.nat n)) h.deletions⟩
  touches_tests := ⟨_, _, rfl, rfl, congrArg (fun b => some (Json.bool b)) h.tests⟩
  touches_docs := ⟨_, _, rfl, rfl, congrArg (fun b => some (Json.bool b)) h.docs⟩
  touches_dependencies := ⟨_, _, rfl, rfl, congrArg (fun b => some (Json.bool b)) h.dependencies⟩
  size := by
    refine ⟨whole.additions, whole.deletions, whole.size.word, left.size.word, right.size.word,
      rfl, rfl, ?_, rfl, rfl, rfl, ?_, ?_⟩
    · exact isSize_ofLines (whole.additions + whole.deletions)
    · rw [idxOf_word, idxOf_word]
      exact h.left_size_le
    · rw [idxOf_word, idxOf_word]
      exact h.right_size_le
  areas := ⟨_, _, _, rfl, rfl, rfl, h.ascending, h.mem_areas⟩

open CommitTools (Returns)

/-- What a call for the impact of a commit returns, when the files of the commit are those of two
others of the same hash.  It is put together from what is returned for these, and stays the same
whatever the order of the files.  Its areas are the first parts of the paths of several parts, with a
point exactly if there is a path of one part at most. -/
theorem returns_append (limit : Int) {left right whole : CommitDiff}
    (hleft : whole.sha = left.sha) (hright : whole.sha = right.sha)
    (hfiles : whole.files = left.files ++ right.files) :
    ∃ l r j : Json, Returns "analyze_commit_impact" limit left l ∧
      Returns "analyze_commit_impact" limit right r ∧
      Returns "analyze_commit_impact" limit whole j ∧
      IsPutTogether j l r ∧
      (∀ other : CommitDiff, other.sha = whole.sha → other.files.Perm whole.files →
        Returns "analyze_commit_impact" limit other j) ∧
      ∃ areas : List Text, j.field? "areas" = some (.arr (areas.map .str)) ∧
        (∀ a, a ≠ Text.ofString "." → (a ∈ areas ↔
          ∃ f ∈ whole.files, ∃ rest, rest ≠ [] ∧ (Path.ofText f.path).parts = a :: rest)) ∧
        (Text.ofString "." ∈ areas ↔
          ∃ f ∈ whole.files, (Path.ofText f.path).parts.length ≤ 1) := by
  have hreturns : ∀ d : CommitDiff,
      Returns "analyze_commit_impact" limit d (ofDiff d).toJson := by
    intro d
    exact CommitTool.impact.returns_shows limit d
  refine ⟨_, _, _, hreturns left, hreturns right, hreturns whole,
    (isSum_ofDiff hleft hright hfiles).isPutTogether, ?_, (ofDiff whole).areas, rfl, ?_,
    point_mem_areas_ofDiff⟩
  · intro other hsha hperm
    rw [← ofDiff_eq_of_perm hsha hperm]
    exact hreturns other
  · intro a ha
    exact mem_areas_ofDiff_ne_point ha

/-- Where every hash is that of the one commit at hand. -/
def oneCommit : CommitSource CommitDiff := fun _ _ d => ⟨.ok d, d, []⟩

/-- Two commits of one area in common, a path of one part, and a path from the root. -/
theorem returns_append_rooted :
    let left : CommitDiff := ⟨"abcd", "One", [], [⟨"src//a.py", "added", 30, 12, []⟩,
      ⟨"./README.md/", "modified", 4, 0, []⟩]⟩
    let right : CommitDiff := ⟨"abcd", "Two", [], [⟨"/etc/hosts", "modified", 1, 1, []⟩,
      ⟨"src/tests/../b.py", "removed", 0, 3, []⟩]⟩
    let whole : CommitDiff := ⟨"abcd", "Three", [], left.files ++ right.files⟩
    ∃ l r j : Json, IsPutTogether j l r ∧
      (∀ d answer, (d, answer) ∈ [(left, l), (right, r), (whole, j),
          ({ whole with files := right.files ++ left.files }, j)] → ∃ ran,
        ((CommitTools.registry oneCommit "owner/name" 100).execute "analyze_commit_impact"
          (.record [("sha", .text "abcd")])).run d = ⟨.ok (.data answer), d, [ran]⟩) ∧
      j.field? "files_changed" = some (.nat 4) ∧ j.field? "size" = some (.text "medium") := by
  intro left right whole
  obtain ⟨l, r, j, hl, hr, hj, htogether, hperm, -⟩ :=
    @returns_append 100 left right whole rfl rfl rfl
  have hgiven : Json.lookup (Text.ofString "sha") [(Text.ofString "sha", .text "abcd")] =
      some (.text "abcd") := rfl
  have hlong : 4 ≤ "abcd".length := by decide
  have hother := hperm { whole with files := right.files ++ left.files } rfl
    List.perm_append_comm
  refine ⟨l, r, j, htogether, ?_, ?_⟩
  · intro d answer hmem
    have hreturns : Returns "analyze_commit_impact" 100 d answer := by
      simp only [List.mem_cons, Prod.mk.injEq, List.not_mem_nil, or_false] at hmem
      obtain ⟨rfl, rfl⟩ | ⟨rfl, rfl⟩ | ⟨rfl, rfl⟩ | ⟨rfl, rfl⟩ := hmem
      · exact hl
      · exact hr
      · exact hj
      · exact hother
    exact hreturns oneCommit "owner/name" hgiven hlong rfl
  · obtain ⟨ran, hran⟩ := hj oneCommit "owner/name" hgiven hlong rfl
    obtain ⟨ran', hran'⟩ := CommitTool.impact.returns_shows 100 whole oneCommit "owner/name" hgiven
      hlong rfl
    have hshown := congrArg Outcome.result (hran.symm.trans hran')
    simp only [Except.ok.injEq, ToolValue.data.injEq] at hshown
    have hsize : (ofDiff whole).size = .medium := by decide +kernel
    rw [hshown]
    refine ⟨rfl, ?_⟩
    show some (Json.text (ofDiff whole).size.word) = _
    rw [hsize]
    rfl

end Impact
end ReleaseNotes
