/-
Prompts.

What the model is told: its job and its tools, and the data of a release.

Main statements:
* `Prompt.system` — the job and the tools;
* `Prompt.commitLine` — a commit on one line;
* `Prompt.groups` — the commits by category, in the order of first appearance;
* `Prompt.user` — the data of a release.
-/
import ReleaseNotes.Release.Basic

namespace ReleaseNotes
namespace Prompt

/-- Lines joined by line breaks. -/
def lines (ls : List Text) : Text := Text.joinWith "\n" ls

/-- The mark around an example of a tool call. -/
def fence : String := "\x60\x60\x60"

/-- What the model is told when there are no tools. -/
def noTools : Text := "(no tools available)"

/-- The job of the model, before the list of tools. -/
def jobBefore : Text := lines [
  "You are an expert technical writer who turns Git history into",
  "clear, informative release notes.",
  "",
  "\x23# Workflow",
  "1. Use the tools to look at the diffs and impact of the important commits.",
  "   The commit subjects alone are not enough.",
  "2. Group related commits into semantic blocks: what was achieved, not just",
  "   which commit type it was.",
  "3. Write the changelog.",
  "",
  "\x23# Requesting Tools",
  "To call a tool, include one fenced json block per call in your reply:",
  "",
  fence ++ "json",
  "\x7b\"tool\": \"get_commit_diff\", \"arguments\": \x7b\"sha\": \"a1b2c3d\"\x7d\x7d",
  fence,
  "",
  "You may request several tools in one reply. Their results come back in the",
  "next message. When you have what you need, reply with the final changelog",
  "and no json blocks.",
  "",
  "\x23# Available Tools",
  ""]

/-- The form of the changelog, after the list of tools. -/
def jobAfter : Text := lines [
  "",
  "",
  "\x23# Changelog Format",
  "- One \x60##\x60 section per category (Features, Bug Fixes, ...)",
  "- Inside each, one \x60###\x60 block per logical change: 2-4 sentences on what",
  "  changed and why it matters, then a \"Related commits\" list",
  "- List commits exactly as \"subject [hash] by @author\"",
  "- Call out breaking changes first",
  ""]

/-- What the model is told of its job and its tools. -/
def system (tools : Text) : Text :=
  jobBefore ++ (if tools = [] then noTools else tools) ++ jobAfter

/-- A commit on one line. -/
def commitLine (c : Commit) : Text := c.subject ++ " [" ++ c.shortHash ++ "] by @" ++ c.author

/-- The headings of the categories that have one. -/
def headings : List (String × String) := [
  ("feat", "Features"), ("fix", "Bug Fixes"), ("perf", "Performance"),
  ("refactor", "Refactoring"), ("docs", "Documentation"), ("test", "Tests"), ("build", "Build"),
  ("ci", "CI"), ("chore", "Chores")]

/-- The heading of a category: the category itself if it has none. -/
def heading (category : Text) : Text :=
  (headings.find? fun (name, _) => category.isString name).elim category fun (_, title) => title

/-- Commits in a list. -/
def listed (commits : List Commit) : Text := lines (commits.map fun c => "- " ++ commitLine c)

/-- A commit put into the group of its category, a new one at the end if there is none. -/
def insertGroup (c : Commit) : List (Text × List Commit) → List (Text × List Commit)
  | [] => [(c.category, [c])]
  | (category, commits) :: rest =>
    if category = c.category then (category, commits ++ [c]) :: rest
    else (category, commits) :: insertGroup c rest

/-- The commits by category, in the order of first appearance. -/
def groups (commits : List Commit) : List (Text × List Commit) :=
  commits.foldl (fun gs c => insertGroup c gs) []

/-- The section on one category. -/
def groupSection (group : Text × List Commit) : Text :=
  "### " ++ heading group.1 ++ "\n" ++ listed group.2 ++ "\n\n"

/-- The section on all commits. -/
def commitsSection (commits : List Commit) : Text := (groups commits).flatMap groupSection

/-- The section on the breaking commits. -/
def breakingSection (commits : List Commit) : Text :=
  match commits.filter Commit.breaking with
  | [] => "None."
  | breaking => listed breaking

/-- The previous version, unless there is none to speak of. -/
def previous? (step : VersionStep) : Option Text := step.previous.filter fun p => p != []

/-- The section on the version. -/
def versionSection (step : VersionStep) : Text :=
  (match previous? step with
    | some p => "- **Previous version**: " ++ p ++ "\n"
    | none => "- **First release**\n") ++
    "- **New version**: " ++ step.current ++ "\n- **Release type**: " ++ step.kind.capitals

/-- The line on all changes, which tags the new version the way the previous one is tagged. -/
def compareLine (r : Release) (step : VersionStep) : Text :=
  match previous? step with
  | none => ""
  | some p =>
    let tag := if p.head? = some (.char 'v') then "v" else ""
    "- **Full changes**: https:/" ++ "/github.com/" ++ r.repository ++ "/compare/" ++ p ++ "..." ++
      tag ++ step.current ++ "\n"

/-- The section on the language. -/
def languageSection (language : String) : Text :=
  if language = "en" then ""
  else "\nWrite the final changelog in **" ++ language ++ "**. Keep commit " ++
    "hashes, @usernames, URLs and code identifiers untranslated.\n"

/-- What the model is told of a release. -/
def user (r : Release) (step : VersionStep) : Text := lines [
  "\x23 Release Context",
  "",
  "\x23# Version",
  versionSection step,
  "",
  "\x23# Repository",
  "- **Repo**: " ++ r.repository,
  compareLine r step,
  "\x23# Breaking Changes",
  breakingSection r.commits.val,
  "",
  "\x23# Commits (" ++ Numeral.print r.commits.val.length ++ ")",
  commitsSection r.commits.val,
  "---",
  "",
  "Generate the changelog for this release. Request tools first for any commit",
  "whose subject does not explain the change.",
  languageSection r.language]

end Prompt
end ReleaseNotes
