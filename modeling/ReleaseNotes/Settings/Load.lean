/-
Settings from a file.

A file sets what it names and leaves the rest as it is.  A void document sets nothing, and so does a
file that is not there.

Main statements:
* `Settings.ofText` — the settings that the text of a file makes;
* `Settings.load` — the settings of a file in a folder.
-/
import ReleaseNotes.Folder
import ReleaseNotes.Settings.Basic
import ReleaseNotes.Yaml.Value

namespace ReleaseNotes
namespace Settings

/-- The settings that a document makes. -/
def ofDocument (file : Text) (document : Json) : Except Failure Settings :=
  match check (if document.isVoid then .obj [] else document) with
  | .ok settings => .ok settings
  | .bad problems => .error (.settingsInvalid file problems)

/-- How deep settings lie: a setting of a section in a section of the document. -/
def depth : Nat := 4

/-- The settings that the text of a file makes. -/
def ofText (file : Text) (text : String) : Except Failure Settings :=
  match Yaml.read depth text.toList with
  | .ok document => ofDocument file document
  | .error .malformed => .error (.settingsSyntax file)
  | .error (.unbuildable failure) => .error failure

/-- The file that is read where none is named. -/
def standardFile : String := "changelog-agent.yaml"

/-- The settings of a file in a folder. -/
def load (folder : Folder) (file : Option String) : Except Failure Settings := do
  let path := Path.ofText (file.getD standardFile)
  if folder.lacks path then return standard
  else ofText path.text (← folder.read path.text)

end Settings
end ReleaseNotes
