/-
The commits in the prompt.

What the model is told of a release accounts for each of its commits once.  The commits are grouped
by their categories, and the groups are told apart by the categories alone: a category stands where
its first commit stands among the commits, and it has just its own commits, in their order.  The
breaking commits are listed once more on their own.

Main statements:
* `Prompt.Accounts` — groups that account for commits;
* `Prompt.Accounts.insertGroup` — one more commit put into its group;
* `Prompt.accounts_groups`, `Prompt.perm_groups` — the groups of the prompt;
* `Prompt.breakingSection_eq_none_iff` — the section on the breaking commits;
* `Prompt.user_accounts` — the whole of what the model is told.
-/
import Mathlib.Data.List.Basic
import Mathlib.Data.List.Induction
import Mathlib.Data.List.Nodup
import Mathlib.Tactic.Common
import ReleaseNotes.Prompt.Basic

namespace ReleaseNotes
namespace Prompt

/-! ### Groups -/

/-- Groups that account for commits: there is one for each category, in the order in which the
categories first appear among the commits, and each has the commits of its category, in their
order. -/
structure Accounts (commits : List Commit) (groups : List (Text × List Commit)) : Prop where
  distinct : (groups.map Prod.fst).Nodup
  mem_categories : ∀ category,
    category ∈ groups.map Prod.fst ↔ category ∈ commits.map Commit.category
  ordered : (groups.map Prod.fst).Pairwise fun a b =>
    (commits.map Commit.category).idxOf a < (commits.map Commit.category).idxOf b
  members : ∀ g ∈ groups, g.2 = commits.filter fun c => c.category = g.1

variable {c : Commit} {commits : List Commit} {gs : List (Text × List Commit)}

/-- The categories of groups into which one more commit is put: its own comes last if it is new. -/
theorem categories_insertGroup (c : Commit) (gs : List (Text × List Commit)) :
    (insertGroup c gs).map Prod.fst =
      if c.category ∈ gs.map Prod.fst then gs.map Prod.fst
      else gs.map Prod.fst ++ [c.category] := by
  induction gs with
  | nil => rfl
  | cons g gs ih =>
    obtain ⟨category, members⟩ := g
    rw [insertGroup]
    by_cases hg : category = c.category
    · simp [hg]
    · have hne : ¬ c.category = category := fun heq => hg heq.symm
      rw [if_neg hg, List.map_cons, ih, List.map_cons]
      by_cases hmem : c.category ∈ gs.map Prod.fst
      · rw [if_pos hmem, if_pos (List.mem_cons_of_mem _ hmem)]
      · rw [if_neg hmem, if_neg (by simpa [hne] using hmem), List.cons_append]

theorem filter_category_append (commits : List Commit) (c : Commit) (category : Text) :
    ((commits ++ [c]).filter fun d => d.category = category) =
      (commits.filter fun d => d.category = category) ++
        if c.category = category then [c] else [] := by
  rw [List.filter_append, List.filter_singleton]
  by_cases h : c.category = category <;> simp [h]

/-- One more commit joins the commits of its category, and the other groups stay as they are. -/
theorem members_insertGroup (hdistinct : (gs.map Prod.fst).Nodup)
    (hnew : c.category ∉ gs.map Prod.fst → (commits.filter fun d => d.category = c.category) = [])
    (hmembers : ∀ g ∈ gs, g.2 = commits.filter fun d => d.category = g.1) :
    ∀ g ∈ insertGroup c gs, g.2 = (commits ++ [c]).filter fun d => d.category = g.1 := by
  induction gs with
  | nil =>
    intro g hg
    rw [insertGroup, List.mem_singleton] at hg
    rw [hg, filter_category_append, hnew List.not_mem_nil, if_pos rfl]
    rfl
  | cons first gs ih =>
    obtain ⟨category, members⟩ := first
    rw [List.map_cons, List.nodup_cons] at hdistinct
    obtain ⟨hfirst, hrest⟩ := List.forall_mem_cons.1 hmembers
    dsimp only at hdistinct hfirst
    rw [insertGroup]
    by_cases hsame : category = c.category
    · rw [if_pos hsame]
      refine List.forall_mem_cons.2 ⟨?_, fun g hg => ?_⟩
      · rw [filter_category_append, if_pos hsame.symm, hfirst]
      · -- no other group is of this category
        have hother : ¬ c.category = g.1 := by
          rintro heq
          exact hdistinct.1 (hsame.trans heq ▸ List.mem_map_of_mem hg)
        rw [filter_category_append, if_neg hother, List.append_nil, hrest g hg]
    · have hother : ¬ c.category = category := fun heq => hsame heq.symm
      rw [if_neg hsame]
      refine List.forall_mem_cons.2 ⟨?_, ih hdistinct.2 (fun hmem => hnew ?_) hrest⟩
      · rw [filter_category_append, if_neg hother, List.append_nil, hfirst]
      · rw [List.map_cons, List.mem_cons, not_or]
        exact ⟨hother, hmem⟩

namespace Accounts

theorem nil : Accounts [] [] := ⟨.nil, fun _ => .rfl, .nil, nofun⟩

/-- Groups that account for commits go on to do so when one more commit is put into its group. -/
theorem insertGroup (h : Accounts commits gs) (c : Commit) :
    Accounts (commits ++ [c]) (insertGroup c gs) := by
  have hcategories := categories_insertGroup c gs
  have hmem : c.category ∈ gs.map Prod.fst ↔ c.category ∈ commits.map Commit.category :=
    h.mem_categories c.category
  -- the places of the categories so far stay as they are
  have hplaces : ∀ category ∈ gs.map Prod.fst,
      ((commits ++ [c]).map Commit.category).idxOf category =
        (commits.map Commit.category).idxOf category := by
    intro category hcategory
    rw [List.map_append, List.idxOf_append_of_mem ((h.mem_categories category).1 hcategory)]
  have hordered : (gs.map Prod.fst).Pairwise fun a b =>
      ((commits ++ [c]).map Commit.category).idxOf a <
        ((commits ++ [c]).map Commit.category).idxOf b :=
    h.ordered.imp_of_mem fun ha hb hlt => by rwa [hplaces _ ha, hplaces _ hb]
  constructor
  case members =>
    refine members_insertGroup h.distinct (fun hnew => ?_) h.members
    rw [List.filter_eq_nil_iff]
    intro d hd heq
    exact hnew (hmem.2 (of_decide_eq_true heq ▸ List.mem_map_of_mem hd))
  all_goals rw [hcategories]
  case distinct =>
    split
    · exact h.distinct
    · next hnew =>
      rw [← List.concat_eq_append]
      exact h.distinct.concat hnew
  case mem_categories =>
    intro category
    rw [List.map_append, List.mem_append, ← h.mem_categories]
    split
    · next hold =>
      refine ⟨.inl, fun hor => hor.elim id fun hlast => ?_⟩
      rwa [List.mem_singleton.1 hlast]
    · rw [List.mem_append]
      rfl
  case ordered =>
    split
    · exact hordered
    · next hnew =>
      refine List.pairwise_append.2 ⟨hordered, List.pairwise_singleton _ _, fun a ha b hb => ?_⟩
      have hlast : c.category ∉ commits.map Commit.category := fun hc => hnew (hmem.2 hc)
      rw [List.mem_singleton.1 hb, hplaces a ha, List.map_append,
        List.idxOf_append_of_notMem hlast]
      exact Nat.lt_add_right _ (List.idxOf_lt_length_of_mem ((h.mem_categories a).1 ha))

end Accounts

theorem groups_append (commits : List Commit) (c : Commit) :
    groups (commits ++ [c]) = insertGroup c (groups commits) := by
  rw [groups, List.foldl_append]
  rfl

/-- The groups of the prompt account for the commits. -/
theorem accounts_groups (commits : List Commit) : Accounts commits (groups commits) := by
  induction commits using List.reverseRecOn with
  | nil => exact .nil
  | append_singleton commits c ih =>
    rw [groups_append]
    exact ih.insertGroup c

theorem perm_insertGroup (c : Commit) (gs : List (Text × List Commit)) :
    ((insertGroup c gs).flatMap Prod.snd).Perm (gs.flatMap Prod.snd ++ [c]) := by
  induction gs with
  | nil => exact .refl _
  | cons g gs ih =>
    obtain ⟨category, members⟩ := g
    rw [insertGroup]
    split
    · simp only [List.flatMap_cons, List.append_assoc]
      exact List.perm_append_comm.append_left members
    · simp only [List.flatMap_cons, List.append_assoc]
      exact ih.append_left members

/-- The groups of the prompt have each commit once. -/
theorem perm_groups (commits : List Commit) : ((groups commits).flatMap Prod.snd).Perm commits := by
  induction commits using List.reverseRecOn with
  | nil => exact .refl _
  | append_singleton commits c ih =>
    rw [groups_append]
    exact (perm_insertGroup c _).trans (ih.append_right [c])

/-! ### Headings -/

theorem heading_of_mem {name title : String} (h : (name, title) ∈ headings) :
    heading name = Text.ofString title := by
  revert h
  simp only [headings, List.mem_cons, Prod.mk.injEq, List.not_mem_nil, or_false]
  rintro (⟨rfl, rfl⟩ | ⟨rfl, rfl⟩ | ⟨rfl, rfl⟩ | ⟨rfl, rfl⟩ | ⟨rfl, rfl⟩ | ⟨rfl, rfl⟩ |
    ⟨rfl, rfl⟩ | ⟨rfl, rfl⟩ | ⟨rfl, rfl⟩) <;> decide

/-- A category without a heading of its own stands for itself. -/
theorem heading_of_not_mem {category : Text}
    (h : ∀ p ∈ headings, category ≠ Text.ofString p.1) : heading category = category := by
  have hnone : (headings.find? fun p => category.isString p.1) = none := by
    rw [List.find?_eq_none]
    intro p hp hstring
    exact h p hp (eq_of_beq hstring)
  rw [heading, hnone]
  rfl

/-! ### The breaking commits -/

theorem head?_listed (c : Commit) (commits : List Commit) :
    (listed (c :: commits)).head? = some (.char '-') := by
  cases commits <;> rfl

theorem breakingSection_of_mem (h : ∃ c ∈ commits, c.breaking = true) :
    breakingSection commits = listed (commits.filter Commit.breaking) := by
  obtain ⟨c, hc, hbreaking⟩ := h
  have hmem : c ∈ commits.filter Commit.breaking := List.mem_filter.2 ⟨hc, hbreaking⟩
  rw [breakingSection]
  cases hfilter : commits.filter Commit.breaking with
  | nil =>
    rw [hfilter] at hmem
    cases hmem
  | cons first rest => rfl

/-- There is said to be no breaking commit exactly if there is none. -/
theorem breakingSection_eq_none_iff (commits : List Commit) :
    breakingSection commits = Text.ofString "None." ↔ ∀ c ∈ commits, c.breaking = false := by
  constructor
  · intro h
    by_contra hsome
    have hbreaking : ∃ c ∈ commits, c.breaking = true := by simpa using hsome
    rw [breakingSection_of_mem hbreaking] at h
    cases hfilter : commits.filter Commit.breaking with
    | nil =>
      obtain ⟨c, hc, hb⟩ := hbreaking
      exact absurd (List.mem_filter.2 ⟨hc, hb⟩) (hfilter ▸ List.not_mem_nil)
    | cons first rest =>
      -- a commit in a list stands behind a dash
      have hhead := head?_listed first rest
      rw [← hfilter, h] at hhead
      revert hhead
      decide
  · intro h
    have hfilter : commits.filter Commit.breaking = [] := by
      rw [List.filter_eq_nil_iff]
      exact fun c hc => by simp [h c hc]
    rw [breakingSection, hfilter]

/-! ### The whole prompt -/

/-- What stands before the breaking commits.  It tells nothing of the commits. -/
def opening (r : Release) (step : VersionStep) : Text := lines [
  "\x23 Release Context",
  "",
  "\x23# Version",
  versionSection step,
  "",
  "\x23# Repository",
  "- **Repo**: " ++ r.repository,
  compareLine r step,
  "\x23# Breaking Changes"]

/-- What stands behind the commits. -/
def closing (r : Release) : Text := lines [
  "---",
  "",
  "Generate the changelog for this release. Request tools first for any commit",
  "whose subject does not explain the change.",
  languageSection r.language]

/-- What the model is told of a release accounts for each of its commits once.  It has one section
for each category, under the heading of the category or else the category itself, and with the
commits of the category alone, each on one line; together these are all commits, and as many as are
said to be there.  The section on the breaking commits lists just them, or says that there are
none. -/
theorem user_accounts (r : Release) (step : VersionStep) :
    ∃ sections : List (Text × List Commit),
      Accounts r.commits.val sections ∧
      (sections.flatMap Prod.snd).Perm r.commits.val ∧
      user r step = lines [
        opening r step,
        breakingSection r.commits.val,
        "",
        "\x23# Commits (" ++ Numeral.print (sections.flatMap Prod.snd).length ++ ")",
        sections.flatMap fun (category, commits) =>
          "### " ++ heading category ++ "\n" ++
            lines (commits.map fun c => "- " ++ commitLine c) ++ "\n\n",
        closing r] ∧
      (∀ name title, (name, title) ∈ headings → heading name = Text.ofString title) ∧
      (∀ category, (∀ p ∈ headings, category ≠ Text.ofString p.1) → heading category = category) ∧
      ((∃ c ∈ r.commits.val, c.breaking = true) →
        breakingSection r.commits.val =
          lines ((r.commits.val.filter Commit.breaking).map fun c => "- " ++ commitLine c)) ∧
      (breakingSection r.commits.val = Text.ofString "None." ↔
        ∀ c ∈ r.commits.val, c.breaking = false) := by
  refine ⟨groups r.commits.val, accounts_groups _, perm_groups _, ?_, fun _ _ => heading_of_mem,
    fun _ => heading_of_not_mem, breakingSection_of_mem, breakingSection_eq_none_iff _⟩
  rw [(perm_groups r.commits.val).length_eq]
  show _ = lines [_, _, _, _, commitsSection r.commits.val, _]
  simp only [user, opening, closing, lines, Text.joinWith, List.append_assoc]

end Prompt
end ReleaseNotes
