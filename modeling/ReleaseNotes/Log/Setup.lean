/-
The setup of a log.

How records are shown, and which of them.  The clients of services on the net report every request;
their reports are left out unless everything is shown.

Main statements:
* `LogSetup.ofNames` — the setup that names call for;
* `LogSetup.levelOf` — the level that a word calls for;
* `LogSetup.threshold` — the level from which on a reporter is heard;
* `LogSetup.record`, `LogSetup.report` — what a record and a report add to a log.
-/
import ReleaseNotes.Log.Line
import ReleaseNotes.Text.Capital

namespace ReleaseNotes

/-- How records are shown, and from which level on. -/
structure LogSetup where
  objects : Bool
  level : Nat
  deriving DecidableEq, Repr

namespace LogSetup

/-- The levels by their names. -/
def levels : List (String × Nat) := [
  ("NOTSET", 0), ("DEBUG", 10), ("INFO", 20), ("WARN", 30), ("WARNING", 30), ("ERROR", 40),
  ("CRITICAL", 50), ("FATAL", 50)]

/-- The environment whose records are shown as objects. -/
def objectsEnvironment : String := "production"

/-- The level that is used where none is named. -/
def usualLevel : String := "INFO"

/-- A name that is given, unless it is empty. -/
def named (name : Option String) : Option String := name.filter (· != "")

/-- The setup that names call for: those given, or else those of the surroundings. -/
def ofNames (environment level : Option String) (surroundings : String → Option String) :
    Except Failure LogSetup :=
  let environment := (named environment).orElse fun _ => surroundings "ENVIRONMENT"
  let name := capitals (((named level).orElse fun _ => surroundings "LOG_LEVEL").getD usualLevel)
  match levels.lookup name with
  | some level => .ok ⟨environment == some objectsEnvironment, level⟩
  | none => .error (.misuse (.unknownOption "logging" name))

/-- The kind of a reporter in messages: it names the level from which on records are shown. -/
def reporterKind (s : LogSetup) : String :=
  let word := ((LogLevel.all.find? fun l => l.severity = s.level).map LogLevel.word).getD "notset"
  "BoundLoggerFilteringAt" ++ word.capitalize

/-- The level that a word calls for. -/
def levelOf (s : LogSetup) (word : String) : Except Failure LogLevel :=
  match LogLevel.ofWord? word with
  | some level => .ok level
  | none => .error (.misuse (.noMember s.reporterKind word))

/-- The reporters that report every request. -/
def clients : List String := ["httpx", "httpcore", "openai"]

/-- The level from which on clients are heard. -/
def clientLevel (s : LogSetup) : Nat :=
  if s.level ≤ LogLevel.debug.severity then s.level else max s.level LogLevel.warning.severity

/-- The level from which on a reporter is heard.  The name of a part of a client begins with the
client's name and a point. -/
def threshold (s : LogSetup) (reporter : String) : Nat :=
  if clients.contains (String.ofList (reporter.toList.takeWhile (· != '.'))) then s.clientLevel
  else s.level

/-- A line and its end. -/
def ended (line : Text) : Text := line ++ "\n"

/-- What a record adds to the log. -/
def record (s : LogSetup) (time : String) (r : LogRecord) : Text :=
  if r.level.severity < s.level then []
  else ended (if s.objects then r.objectLine time else r.colouredLine time)

/-- What the report of a reporter adds to the log. -/
def report (s : LogSetup) (reporter : String) (level : Int) (text : Text) : Text :=
  if 0 < level ∧ (s.threshold reporter : Int) ≤ level then ended text else []

end LogSetup
end ReleaseNotes
