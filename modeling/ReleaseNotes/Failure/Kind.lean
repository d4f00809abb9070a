/-
Kinds of failure.

The names that failures go by in answers, logs and tool results, and the families that a retry
policy or an error handler may name.

Main statements:
* `FailureKind.name` — the name of a kind;
* `FailureKind.families` — the families a kind belongs to, the nearest first;
* `FailureKind.isA` — membership in a family given by its name.
-/

namespace ReleaseNotes

/-- The kinds of failure. -/
inductive FailureKind where
  | agent
  | input
  | invalidVersion
  | noDirective
  | transient
  | unknownTool
  | toolExecution
  | value
  | jsonDecode
  | validation
  | yaml
  | type
  | member
  | key
  | index
  | runtime
  | recursion
  | timeout
  | fileNotFound
  | isDirectory
  | notDirectory
  | system
  | unicodeDecode
  | unicodeEncode
  | serialization
  | overflow
  | memory
  | other (name : String)
  deriving DecidableEq, Repr

namespace FailureKind

/-- The name of a kind. -/
def name : FailureKind → String
  | agent => "ChangelogAgentError"
  | input => "InputError"
  | invalidVersion => "InvalidVersionError"
  | noDirective => "NoReleaseDirectiveError"
  | transient => "TransientCallError"
  | unknownTool => "UnknownToolError"
  | toolExecution => "ToolExecutionError"
  | value => "ValueError"
  | jsonDecode => "JSONDecodeError"
  | validation => "ValidationError"
  | yaml => "YAMLError"
  | type => "TypeError"
  | member => "AttributeError"
  | key => "KeyError"
  | index => "IndexError"
  | runtime => "RuntimeError"
  | recursion => "RecursionError"
  | timeout => "TimeoutError"
  | fileNotFound => "FileNotFoundError"
  | isDirectory => "IsADirectoryError"
  | notDirectory => "NotADirectoryError"
  | system => "OSError"
  | unicodeDecode => "UnicodeDecodeError"
  | unicodeEncode => "UnicodeEncodeError"
  | serialization => "PydanticSerializationError"
  | overflow => "OverflowError"
  | memory => "MemoryError"
  | other name => name

/-- The kinds that have a name of their own. -/
def named : List FailureKind := [
  agent, input, invalidVersion, noDirective, transient, unknownTool, toolExecution, value,
  jsonDecode, validation, yaml, type, member, key, index, runtime, recursion, timeout,
  fileNotFound, isDirectory, notDirectory, system, unicodeDecode, unicodeEncode, serialization,
  overflow, memory]

/-- The kind that goes by a name. -/
def ofName (s : String) : FailureKind :=
  (named.find? fun k => k.name == s).getD (other s)

/-- The names of the families a kind belongs to, from the kind itself outwards. -/
def families (k : FailureKind) : List String :=
  k.name :: match k with
    | input => ["ChangelogAgentError", "ValueError", "Exception"]
    | invalidVersion | noDirective =>
      ["InputError", "ChangelogAgentError", "ValueError", "Exception"]
    | transient | unknownTool | toolExecution => ["ChangelogAgentError", "Exception"]
    | jsonDecode | validation | serialization => ["ValueError", "Exception"]
    | overflow => ["ArithmeticError", "Exception"]
    | unicodeDecode | unicodeEncode => ["UnicodeError", "ValueError", "Exception"]
    | key | index => ["LookupError", "Exception"]
    | recursion => ["RuntimeError", "Exception"]
    | timeout | fileNotFound | isDirectory | notDirectory => ["OSError", "Exception"]
    | _ => ["Exception"]

/-- Whether a kind belongs to the family of a name. -/
def isA (k : FailureKind) (family : String) : Bool := k.families.contains family

end FailureKind
end ReleaseNotes
