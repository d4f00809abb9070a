/-
Lines of a log.

A log shows a record on a line: as one object, or in colours for a reader at a terminal.

Main statements:
* `LogRecord.objectLine` — the line of a record as one object;
* `LogRecord.colouredLine` — the line of a record in colours.
-/
import ReleaseNotes.Act.Notice
import ReleaseNotes.Json.Literal

namespace ReleaseNotes

namespace LogLevel

/-- Other words for levels. -/
def otherWords : List (String × LogLevel) :=
  [("msg", info), ("warn", warning), ("fatal", critical)]

/-- The level that goes by a word. -/
def ofWord? (word : String) : Option LogLevel :=
  (all.find? fun level => level.word == word).orElse fun _ => otherWords.lookup word

end LogLevel

namespace LogRecord

/-- The fields that ask for more than a line shows. -/
def requests : List Text := ["exc_info", "stack_info"]

/-- The fields that a line shows; of two with one name the last is shown, at the place of the
first. -/
def shownFields (r : LogRecord) : Json.Fields :=
  (r.fields.filter fun (name, _) => !requests.contains name).foldl
    (fun before (name, v) => Json.put name v before) []

/-! ### Objects -/

/-- What every record has. -/
def heading (r : LogRecord) (time : String) : Json.Fields :=
  [("event", .str r.event), ("level", .text r.level.word), ("timestamp", .text time)]

/-- All that is known of a record: its fields and what every record has. -/
def toJson (r : LogRecord) (time : String) : Json :=
  .obj ((r.heading time).foldl (fun before (name, v) => Json.put name v before) r.shownFields)

/-- The line of a record as one object. -/
def objectLine (r : LogRecord) (time : String) : Text := (r.toJson time).compact .result

/-! ### Colours -/

/-- The code of a terminal that changes how characters look. -/
def look (code : String) : String := "\x1b[" ++ code ++ "m"

/-- The code of a terminal for the usual look. -/
def usual : String := look "0"

/-- The code of a terminal for the colour of a level. -/
def colour : LogLevel → String
  | .debug | .info => look "32"
  | .warning => look "33"
  | .error | .critical => look "31"

/-- The text with blanks behind it, up to a width. -/
def padded (width : Nat) (t : Text) : Text :=
  t ++ List.replicate (width - t.length) (.char ' ')

/-- The width of a level. -/
def levelWidth : Nat := 9

/-- The width of an event. -/
def eventWidth : Nat := 30

/-- Whether a text is quoted that holds the character. -/
def isMarked (c : Char) : Bool := [' ', '\t', '=', '\r', '\n', '"', '\''].contains c

/-- A value as a line shows it: a text without blanks and marks stands bare. -/
def shownValue : Json → Text
  | .str t => if t.any (fun u => u.passes isMarked) then Text.quoted t else t
  | j => j.literal

/-- A field as a line shows it. -/
def shownField (name : Text) (v : Json) : Text :=
  " " ++ look "36" ++ name ++ usual ++ "=" ++ look "35" ++ shownValue v ++ usual

/-- The fields behind the heading, in the order of their names. -/
def furtherFields (r : LogRecord) : Json.Fields :=
  let taken := (r.heading "").map Prod.fst
  (r.shownFields.filter fun (name, _) => !taken.contains name).mergeSort
    fun a b => !b.1.isBefore a.1

/-- The line of a record in colours. -/
def colouredLine (r : LogRecord) (time : String) : Text :=
  look "2" ++ time ++ usual ++ " [" ++ colour r.level ++ look "1" ++
    padded levelWidth r.level.word ++ usual ++ "] " ++ look "1" ++
    padded eventWidth r.event ++ usual ++
    r.furtherFields.flatMap fun (name, v) => shownField name v

end LogRecord
end ReleaseNotes
