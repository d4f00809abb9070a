/-
Folders.

What stands at the paths of a folder: nothing, a folder, or the text of a file.  A path may also
lead through a file, or have a name that is too long.

Main statements:
* `Entry` — what stands at a path;
* `Folder` — the entries by their paths;
* `Folder.ofFiles` — the folder that holds given files;
* `Folder.read` — the text of a file.
-/
import ReleaseNotes.Failure
import ReleaseNotes.Text.Path

namespace ReleaseNotes

/-- What stands at a path. -/
inductive Entry where
  | nothing
  | folder
  | file (text : String)
  /-- A file stands where the path goes on. -/
  | throughFile
  /-- A name in the path is too long. -/
  | longName
  deriving DecidableEq, Repr

/-- The entries of a folder by their paths. -/
abbrev Folder := Path → Entry

namespace Folder

/-- The characters with every line break as a single line feed. -/
def plainLines : List Char → List Char
  | '\r' :: '\n' :: cs => '\n' :: plainLines cs
  | '\r' :: cs => '\n' :: plainLines cs
  | c :: cs => c :: plainLines cs
  | [] => []

/-- The greatest number of bytes of a name. -/
def maxName : Nat := 255

/-- How many bytes a name has. -/
def nameSize (name : Text) : Nat := name.shown.utf8ByteSize

/-- What stands at the end of steps that lead on from other steps, none of which goes up. -/
def walk (entryAt : List Text → Entry) : List Text → List Text → Entry
  | done, [] => entryAt done
  | done, step :: rest => match entryAt done with
    | .folder =>
      if step.isString ".." then walk entryAt done.dropLast rest
      else if maxName < nameSize step then .longName
      else walk entryAt (done ++ [step]) rest
    | .file _ => .throughFile
    | entry => entry

/-- What stands at the end of steps, none of which goes up. -/
def entryAt (files : List (Path × Option String)) (steps : List Text) : Entry :=
  if steps = [] then .folder
  else match files.find? fun (p, _) => p.steps = steps with
    | some (_, some text) => .file text
    | some (_, none) => .folder
    | none => if files.any fun (p, _) => steps <+: p.steps then .folder else .nothing

/-- The folder that holds given files; a name without a text is a folder. -/
def ofFiles (files : List (Path × Option String)) : Folder := fun path =>
  if path.root = [] then walk (entryAt files) [] path.steps
  else if path.steps = [] then .folder
  else .nothing

/-- Whether nothing stands at a path, so that it may be passed over. -/
def lacks (folder : Folder) (path : Path) : Bool :=
  folder path = .nothing || folder path = .throughFile

/-- Whether a text names a folder: a slash is its end, or a slash and a point. -/
def namesFolder (file : Text) : Bool :=
  match (file.splitOn (.char '/')).reverse with
  | last :: _ :: _ => last = [] || Text.isString last "."
  | _ => false

/-- The text of a file, with every line break as a single line feed. -/
def read (folder : Folder) (file : Text) : Except Failure String :=
  if file.contains (.char '\x00') then .error (.outside .value "embedded null byte")
  else match folder (Path.ofText file) with
    | .nothing => .error (.noFile file)
    | .folder => .error (.directory file)
    | .throughFile => .error (.notDirectory file)
    | .longName => .error (.longName file)
    | .file text =>
      if namesFolder file then .error (.notDirectory file)
      else .ok (String.ofList (plainLines text.toList))

end Folder
end ReleaseNotes
