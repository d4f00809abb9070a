/-
The command line.

Reads what the program needs where it is called, runs it, and prints what it has to say: the log and
complaints on the error output, all else on the output.

There is no connection to the net here: services are tried, and found out of reach.
-/
import ReleaseNotes.CommandLine.Run

namespace ReleaseNotes
namespace Program

/-- The text of the input up to its end. -/
partial def readAll (input : IO.FS.Stream) (before : String) : IO String := do
  let line ← input.getLine
  if line.isEmpty then return before else readAll input (before ++ line)

/-- What stands at a path. -/
def entryAt (path : String) : IO Entry := do
  try return .file (← IO.FS.readFile path)
  catch
    | .inappropriateType .. => return .folder
    | _ => return .nothing

/-- The folder with the entries at the paths that a call names. -/
def folderOf (call : CommandLine.Call) : IO Folder := do
  match call with
  | .run options =>
    let paths := [options.input.getD "", options.config.getD Settings.standardFile].map
      fun file : String => Path.ofText file
    let entries ← paths.mapM fun path => do return (path, ← entryAt path.text.shown)
    return fun path => (entries.lookup path).getD .nothing
  | _ => return fun _ => .nothing

/-- The settings that the program looks up where it is called. -/
def settingNames : List String := ["ENVIRONMENT", "LOG_LEVEL", "OPENAI_API_KEY", "GITHUB_TOKEN"]

/-- A way to services that are out of reach. -/
def unreachable : Transport Unit := fun _ => pure (.failure "ConnectError" "no connection")

/-- What the program finds where it is called. -/
def surroundings (call : CommandLine.Call) : IO (CommandLine.Surroundings Unit) := do
  let stdin ← IO.getStdin
  let isTerminal ← stdin.isTty
  let readsInput := match call with
    | .run options => options.file?.isNone && !isTerminal
    | _ => false
  let input ← if readsInput then readAll stdin "" else pure ""
  let settings ← settingNames.mapM fun name => do return (name, ← IO.getEnv name)
  return {
    isTerminal, input
    folder := ← folderOf call
    setting? := fun name => (settings.lookup name).join
    github := unreachable
    languageModel := unreachable }

end Program
end ReleaseNotes

open ReleaseNotes Program in
/-- The program. -/
def main (arguments : List String) : IO UInt32 := do
  let s ← surroundings (CommandLine.read arguments)
  let o := (CommandLine.run s arguments).run ()
  let stderr ← IO.getStderr
  let time := Numeral.print (← IO.monoMsNow)
  if let .ok setup := LogSetup.ofNames none none s.setting? then
    for notice in o.notices do
      stderr.putStr (setup.record time notice.record).shown
  match o.result with
  | .ok report =>
    (← IO.getStdout).putStr report.printed.shown
    stderr.putStr report.complained.shown
    return UInt32.ofNat report.status
  | .error failure =>
    stderr.putStr (failure.kind.name ++ ": " ++ Text.shown failure.message ++ "\n")
    return 1
