/-
The writer of changelogs.

From the data of a release to its changelog: the version is planned first, then a dialogue with the
model, which may look at the commits, writes the text.

Main statements:
* `Writer` — the settings, the model, and where commits come from;
* `Writer.dialogue` — the dialogue on a release;
* `Writer.write` — the changelog of a release.
-/
import ReleaseNotes.Prompt.Basic
import ReleaseNotes.Release.Changelog
import ReleaseNotes.Tool.CommitTools
import ReleaseNotes.Dialogue.Run

namespace ReleaseNotes

/-- The settings, the model, and where commits come from. -/
structure Writer (ω : Type) where
  settings : Settings
  service : Service ω
  source : CommitSource ω

namespace Writer

variable {ω : Type}

/-- The tools of the dialogue on a release. -/
def registry (w : Writer ω) (r : Release) : Registry ω :=
  CommitTools.registry w.source r.repository w.settings.maxPatch.val

/-- The dialogue on a release. -/
def dialogue (w : Writer ω) (r : Release) : Dialogue ω where
  service := w.service
  tools := w.registry r
  settings := w.settings.dialogue

/-- The version of a release, and the outcome of the dialogue on it. -/
def converse (w : Writer ω) (r : Release) : Act ω (VersionStep × DialogueResult) := do
  let step ← Act.of r.plan
  let result ← (w.dialogue r).run (Prompt.system (w.registry r).describe) (Prompt.user r step)
  return (step, result)

/-- The changelog of a release. -/
def write (w : Writer ω) (r : Release) : Act ω Changelog := do
  Act.notice (.started r.repository r.previousVersion r.commits.val.length)
  let (step, result) ← (w.converse r).rescue fun f => do
    Act.notice (.broke r.repository f)
    Act.fail f
  Act.notice (.completed r.repository step.current step.kind.word result.iterations.val
    result.reports.length result.truncated)
  return Changelog.ofResult step result

end Writer
end ReleaseNotes
