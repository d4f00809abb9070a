/-
Failures.

Why a call fails.  A failure is a cause; its kind and its message are computed from it.

Main statements:
* `Failure` — the causes;
* `Failure.kind`, `Failure.message` — how a failure is told;
* `Failure.isInput`, `Failure.isValue`, `Failure.isAgent`, `Failure.isTransient` — the families
  that callers tell apart.
-/
import ReleaseNotes.Failure.Kind
import ReleaseNotes.Json.Decode
import ReleaseNotes.Text.Encoding
import ReleaseNotes.Validation.Problem

namespace ReleaseNotes

/-- A conversion between numbers and numerals that is too long. -/
inductive NumeralLimit where
  | reading (digits : Nat)
  | writing
  deriving DecidableEq, Repr

/-- The message of a conversion that is too long. -/
def NumeralLimit.message : NumeralLimit → String
  | reading digits =>
    "Exceeds the limit (" ++ Numeral.print Numeral.maxDigits ++
      " digits) for integer string conversion: value has " ++ Numeral.print digits ++
      " digits; use sys.set_int_max_str_digits() to increase the limit"
  | writing =>
    "Exceeds the limit (" ++ Numeral.print Numeral.maxDigits ++
      " digits) for integer string conversion; use sys.set_int_max_str_digits() to increase " ++
      "the limit"

/-- A value of the wrong shape where a client or a tool relies on its shape. -/
inductive Misuse where
  | noMember (kind member : String)
  | notText (kind : String)
  | unordered (sign left right : String)
  | noPlace
  | textIndexedByName
  | listIndexedByName
  | notSubscriptable (kind : String)
  | notIterable (kind : String)
  | noLength (kind : String)
  | notMapping (kind : String)
  | notJoinable
  | joinedItem (position : Nat) (kind : String)
  | unexpectedArgument (function : String) (name : Text)
  | missingArguments (function : String) (names : List String)
  | tupleKey
  | unknownOption (owner name : String)
  | noSetter (owner name : String)
  deriving DecidableEq, Repr

namespace Misuse

/-- Names in quotes, the last two joined by "and". -/
def listed : List String → String
  | [] => ""
  | [a] => quoted a
  | [a, b] => quoted a ++ " and " ++ quoted b
  | names => String.intercalate ", " ((names.dropLast).map quoted) ++ ", and " ++
      quoted (names.getLastD "")

/-- The kind of failure a misuse is told as. -/
def kind : Misuse → FailureKind
  | noMember _ _ => .member
  | unknownOption _ _ => .member
  | noSetter _ _ => .member
  | _ => .type

/-- The message of a misuse. -/
def message : Misuse → Text
  | noMember kind member => quoted kind ++ " object has no attribute " ++ quoted member
  | notText kind => "expected string or bytes-like object, got " ++ quoted kind
  | unordered sign left right =>
    quoted sign ++ " not supported between instances of " ++ quoted left ++ " and " ++ quoted right
  | noPlace => "slice indices must be integers or None or have an __index__ method"
  | textIndexedByName => "string indices must be integers, not 'str'"
  | listIndexedByName => "list indices must be integers or slices, not str"
  | notSubscriptable kind => quoted kind ++ " object is not subscriptable"
  | notIterable kind => quoted kind ++ " object is not iterable"
  | noLength kind => "object of type " ++ quoted kind ++ " has no len()"
  | notMapping kind => quoted kind ++ " object is not a mapping"
  | notJoinable => "can only join an iterable"
  | joinedItem position kind =>
    "sequence item " ++ Numeral.print position ++ ": expected str instance, " ++ kind ++ " found"
  | unexpectedArgument function name =>
    function ++ "() got an unexpected keyword argument '" ++ name ++ "'"
  | missingArguments function names =>
    function ++ "() missing " ++ Numeral.print names.length ++ " required positional argument" ++
      (if names.length = 1 then "" else "s") ++ ": " ++ listed names
  | tupleKey => "keys must be str, int, float, bool or None, not tuple"
  | unknownOption owner name => "module " ++ quoted owner ++ " has no attribute " ++ quoted name
  | noSetter owner name => "property " ++ quoted name ++ " of " ++ quoted owner ++
      " object has no setter"

end Misuse

/-- Why a call fails. -/
inductive Failure where
  /-- A value is no version. -/
  | invalidVersion (given : Json)
  /-- None of so many commits asks for a release. -/
  | noDirective (commits : Nat)
  /-- A tool is not registered. -/
  | unknownTool (tool : Text)
  /-- A tool rejects its arguments or fails. -/
  | toolFailed (tool message : Text) (cause : Option FailureKind)
  /-- A call that may be tried again. -/
  | transient (message : Text) (cause : Option FailureKind)
  /-- A value does not fit a model. -/
  | invalid (model : String) (problems : List Problem)
  /-- A text is no JSON. -/
  | json (error : Json.DecodeError)
  /-- A number has too many digits. -/
  | numeral (limit : NumeralLimit)
  /-- A version does not follow the version before it. -/
  | notNewer (current previous : Text)
  /-- A value is no kind of release. -/
  | notReleaseKind (given : Json)
  /-- A value is no part of a version to raise. -/
  | notVersionPart (given : Json)
  /-- A tool's name is taken. -/
  | duplicateTool (tool : Text)
  /-- A model has no such field. -/
  | noField (model : String) (field : Text)
  /-- A settings file is no YAML. -/
  | settingsSyntax (file : Text)
  /-- A settings file does not fit the settings. -/
  | settingsInvalid (file : Text) (problems : List Problem)
  /-- Something is looked up under a key that is not there. -/
  | missingKey (key : Json)
  /-- A list has no such item. -/
  | missingItem
  /-- A value has the wrong shape. -/
  | misuse (problem : Misuse)
  /-- A file is not there. -/
  | noFile (path : Text)
  /-- A file is a directory. -/
  | directory (path : Text)
  /-- A file stands where a path goes on. -/
  | notDirectory (path : Text)
  /-- A name in a path is too long. -/
  | longName (path : Text)
  /-- A text that is sent has no encoding. -/
  | unencodable (fault : EncodingFault)
  /-- A document holds a text that has no encoding. -/
  | unwritable (fault : EncodingFault)
  /-- Anything a service outside reports. -/
  | outside (kind : FailureKind) (message : Text)

namespace Failure

/-- The kind of a failure. -/
def kind : Failure → FailureKind
  | invalidVersion _ => .invalidVersion
  | noDirective _ => .noDirective
  | unknownTool _ => .unknownTool
  | toolFailed _ _ _ => .toolExecution
  | transient _ _ => .transient
  | invalid _ _ => .validation
  | json (.malformed _ _ _ _) => .jsonDecode
  | json (.tooManyDigits _) => .value
  | json (.tooDeep _) => .recursion
  | numeral _ | notNewer _ _ | notReleaseKind _ | notVersionPart _ | duplicateTool _ => .value
  | noField _ _ | settingsSyntax _ | settingsInvalid _ _ => .value
  | missingKey _ => .key
  | missingItem => .index
  | misuse problem => problem.kind
  | noFile _ => .fileNotFound
  | directory _ => .isDirectory
  | notDirectory _ => .notDirectory
  | longName _ => .system
  | unencodable _ => .unicodeEncode
  | unwritable _ => .serialization
  | outside kind _ => kind

/-- The model whose settings a file holds. -/
def settingsModel : String := "AgentConfig"

/-- The message of a failure. -/
def message : Failure → Text
  | invalidVersion given => "Invalid semantic version: " ++ given.literal
  | noDirective commits =>
    "None of the " ++ Numeral.print commits ++
      " commits contains a release directive (!release: major|minor|patch) or a " ++
      "breaking-change marker."
  | unknownTool tool => "Unknown tool: " ++ tool
  | toolFailed _ message _ => message
  | transient message _ => message
  | invalid model problems => Problem.report model problems
  | json (.malformed problem position line column) =>
    problem.message ++ ": line " ++ Numeral.print line ++ " column " ++ Numeral.print column ++
      " (char " ++ Numeral.print position ++ ")"
  | json (.tooManyDigits count) => (NumeralLimit.reading count).message
  | json (.tooDeep innermost) =>
    "maximum recursion depth exceeded while decoding a JSON " ++ innermost.word ++
      " from a unicode string"
  | numeral limit => limit.message
  | notNewer current previous =>
    "Version " ++ current ++ " is not greater than previous version " ++ previous ++ "."
  | notReleaseKind given => given.literal ++ " is not a valid ReleaseType"
  | notVersionPart given => "unexpected bump kind: " ++ given.spoken
  | duplicateTool tool => "Tool " ++ Text.quoted tool ++ " is already registered"
  | noField model field => "\"" ++ model ++ "\" object has no field \"" ++ field ++ "\""
  | settingsSyntax file => "Invalid YAML in " ++ file
  | settingsInvalid file problems =>
    "Invalid config in " ++ file ++ ": " ++ Problem.report settingsModel problems
  | missingKey key => key.literal
  | missingItem => "list index out of range"
  | misuse problem => problem.message
  | noFile path => "[Errno 2] No such file or directory: " ++ Text.quoted path
  | directory path => "[Errno 21] Is a directory: " ++ Text.quoted path
  | notDirectory path => "[Errno 20] Not a directory: " ++ Text.quoted path
  | longName path => "[Errno 36] File name too long: " ++ Text.quoted path
  | unencodable fault => fault.message
  | unwritable fault =>
    "Error serializing to JSON: " ++ FailureKind.unicodeEncode.name ++ ": " ++ fault.message
  | outside .key message => Text.quoted message
  | outside _ message => message

/-- The kind of failure that a failure was made of. -/
def cause? : Failure → Option FailureKind
  | toolFailed _ _ cause => cause
  | transient _ cause => cause
  | settingsSyntax _ => some .yaml
  | settingsInvalid _ _ => some .validation
  | _ => none

/-- The tool that a failure is about. -/
def tool? : Failure → Option Text
  | unknownTool tool => some tool
  | toolFailed tool _ _ => some tool
  | _ => none

/-- Bad input from the caller. -/
def isInput (f : Failure) : Bool := f.kind.isA "InputError"

/-- A value that a call cannot work with. -/
def isValue (f : Failure) : Bool := f.kind.isA "ValueError"

/-- A failure that this library reports on purpose. -/
def isAgent (f : Failure) : Bool := f.kind.isA "ChangelogAgentError"

/-- A failure that another attempt may mend. -/
def isTransient (f : Failure) : Bool := f.kind.isA "TransientCallError"

end Failure

/-- The text that a value is, where nothing else can be searched. -/
def Json.searched : Json → Except Failure Text
  | .str t => .ok t
  | j => .error (.misuse (.notText j.kindName))

end ReleaseNotes
