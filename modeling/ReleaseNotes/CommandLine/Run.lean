/-
The program.

From the words of a call to what is printed: the data of a release is read from a file or from the
input, and its version or its changelog is printed.  Failures on purpose and values that cannot be
worked with are reported; all others end the program.

Main statements:
* `CommandLine.Surroundings` — what the program finds where it is called;
* `CommandLine.Report` — what it prints, and how it ends;
* `CommandLine.run` — the program.
-/
import ReleaseNotes.CommandLine.Options
import ReleaseNotes.GitHub.Client
import ReleaseNotes.Json.Sendable
import ReleaseNotes.LanguageModel.Client
import ReleaseNotes.Log.Setup
import ReleaseNotes.Settings.Load
import ReleaseNotes.Writer

namespace ReleaseNotes
namespace CommandLine

/-- What the program finds where it is called. -/
structure Surroundings (ω : Type) where
  /-- Whether the input is a terminal. -/
  isTerminal : Bool
  input : Text
  folder : Folder
  setting? : String → Option String
  github : Transport ω
  languageModel : Transport ω

/-- What the program prints, and how it ends. -/
structure Report where
  status : Nat
  printed : Text := []
  complained : Text := []
  deriving DecidableEq, Repr

variable {ω : Type}

/-- The writer of changelogs where the program is called. -/
def writer (s : Surroundings ω) (settings : Settings) : Writer ω where
  settings := settings
  service := (LanguageModel.new settings.languageModel
    ((s.setting? "OPENAI_API_KEY").getD "")).service s.languageModel
  source := (GitHubClient.new "" ((s.setting? "GITHUB_TOKEN").getD "")
    GitHubClient.standardTimeout).source s.github

/-- What is printed for the data of a release. -/
def document (s : Surroundings ω) (o : Options) (data : Json) : Act ω Json := do
  let release ← Act.of ((Release.check data).orFail Release.model)
  let settings ← Act.of (Settings.load s.folder o.config)
  if o.planOnly then return (← Act.of release.plan).toJson
  else return (← (writer s settings).write release).toJson

/-- The report on a failure, unless it ends the program. -/
def complain (f : Failure) : Act ω Report :=
  if f.isAgent || f.isValue then
    pure { status := 1, complained := "error: " ++ f.message ++ "\n" }
  else Act.fail f

/-- What is printed of a value, unless it cannot be written. -/
def printed (j : Json) : Act ω Report :=
  match j.document with
  | .ok text => pure { status := 0, printed := text ++ "\n" }
  | .error fault => Act.fail (.unwritable fault)

/-- The report on the data of a release.  A document that cannot be written ends the program. -/
def process (s : Surroundings ω) (o : Options) (data : Json) : Act ω Report := do
  match ← (Except.ok <$> document s o data).rescue fun f => Except.error <$> complain f with
  | .ok j => printed j
  | .error report => return report

/-- The file that the data of a release is read from, unless it is read from the input. -/
def Options.file? (o : Options) : Option String := o.input.filter (· != "")

/-- The data of a release. -/
def data (s : Surroundings ω) (o : Options) : Except Failure Json := do
  let text : Text ← match o.file? with
    | some file => (s.folder.read file).map Text.ofString
    | none => .ok s.input
  (Json.decode text).mapError .json

/-- The program. -/
def run (s : Surroundings ω) (arguments : List String) : Act ω Report :=
  match read arguments with
  | .help => pure { status := 0, printed := helpText }
  | .misused misuse =>
    pure { status := 2, complained := usage ++ program ++ ": error: " ++ misuse.message ++ "\n" }
  | .run o =>
    if o.file?.isNone && s.isTerminal then
      pure { status := 2, printed := usage ++ "Provide --input FILE or pipe JSON via stdin.\n" }
    else do
      let _ ← Act.of (LogSetup.ofNames none none s.setting?)
      let j ← Act.of (data s o)
      process s o j

end CommandLine
end ReleaseNotes
