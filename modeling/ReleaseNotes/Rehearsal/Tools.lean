/-
Tools for rehearsals.

Small tools to try a registry and a dialogue on: some with a signature, some that are called as they
are, some that fail.

Main statements:
* `Plain` — a tool without a signature, which binds its arguments itself;
* `Rehearsal.tool?` — the tool of a kind.
-/
import ReleaseNotes.Rehearsal.Basic
import ReleaseNotes.Version.Parse

namespace ReleaseNotes

/-- How a tool without a signature binds its arguments. -/
structure Plain where
  shown : String
  required : List String := []
  optional : List String := []
  takesAny : Bool := false

namespace Plain

/-- The first argument that the tool does not take. -/
def unexpected? (p : Plain) (fields : Json.Fields) : Option Text :=
  if p.takesAny then none
  else (fields.find? fun (name, _) =>
    !((p.required ++ p.optional).any fun known => name.isString known)).map Prod.fst

/-- The arguments that the tool misses. -/
def missing (p : Plain) (fields : Json.Fields) : List String :=
  p.required.filter fun name => (Json.lookup name fields).isNone

/-- The arguments, if the tool takes them. -/
def bind (p : Plain) (fields : Json.Fields) : Except Failure Json.Fields :=
  match p.unexpected? fields with
  | some name => .error (.misuse (.unexpectedArgument p.shown name))
  | none =>
    match p.missing fields with
    | [] => .ok fields
    | names => .error (.misuse (.missingArguments p.shown names))

end Plain

namespace Rehearsal

/-- The value of an argument. -/
def argument (fields : Json.Fields) (name : String) : Json :=
  (Json.lookup name fields).getD .null

/-- What `echo` takes. -/
def echoSignature : Signature := ⟨"EchoArgs", none, [
  ⟨"text", "Text", .text none, none, none⟩,
  ⟨"times", "Times", .integer none none, none, some (.int 1)⟩]⟩

/-- What `measure` takes. -/
def measureSignature : Signature := ⟨"MeasureArgs", some "Arguments of the measure tool.", [
  ⟨"n", "N", .integer (some 0) (some 100), some "Count", none⟩,
  ⟨"ratio", "Ratio", .number (some 0), none, some (.float 1.5)⟩,
  ⟨"flag", "Flag", .boolean, none, some (.bool false)⟩,
  ⟨"tags", "Tags", .texts (some 3), none, some (.arr [])⟩,
  ⟨"kind", "Kind", .releaseKind, none, some .null⟩]⟩

/-- The greatest number of characters that can be counted. -/
def greatestCount : Nat := Nat.pow 2 63 - 1

/-- The greatest number of characters that there is room for. -/
def room : Nat := Nat.pow 2 30

/-- A text, a number of times, unless that is no count, or a text too long to be counted or held. -/
def repeated (t : Text) (times : Int) : Except Failure Text :=
  if !Check.isWord times then
    .error (.outside .overflow "cannot fit 'int' into an index-sized integer")
  else if times ≤ 0 ∨ t = [] then .ok []
  else if greatestCount < t.length * times.toNat then
    .error (.outside .overflow "repeated string is too long")
  else if room < t.length * times.toNat then .error (.outside .memory [])
  else .ok (List.replicate times.toNat t).flatten

/-- A text, a number of times. -/
def echo (fields : Json.Fields) : Except Failure Json :=
  match argument fields "text", argument fields "times" with
  | .str t, .int n => (repeated t n).map .str
  | _, _ => .ok (.text "")

/-- The texts that are joined. -/
def parts : Json → Except Failure (List Text)
  | .str t => .ok (t.map fun u => [u])
  | .obj fields => .ok (fields.map Prod.fst)
  | .arr items => texts 0 items
  | _ => .error (.misuse .notJoinable)
where
  /-- The items of a list, each of which must be a text. -/
  texts : Nat → List Json → Except Failure (List Text)
    | _, [] => .ok []
    | i, .str t :: rest => (texts (i + 1) rest).map (t :: ·)
    | i, j :: _ => .error (.misuse (.joinedItem i j.kindName))

/-- Texts with a separator between them. -/
def join (fields : Json.Fields) : Except Failure Json :=
  match (Json.lookup (Text.ofString "sep") fields).getD (.text ",") with
  | .str separator => (parts (argument fields "parts")).map fun ts =>
      .str (Text.joinWith separator ts)
  | j => .error (.misuse (.noMember j.kindName "join"))

/-- A value that holds parts which are shown by their texts. -/
def oddValue : Json :=
  .record [
    ("version", .text "1.2.3-rc.1+b"), ("day", .text "2024-02-29"), ("path", .text "a/b/../c"),
    ("kinds", .arr [.text "minor"]), ("pair", .arr [.int 1, .int 2])]

/-- A tool without a signature. -/
def plain (p : Plain) (run : Json.Fields → Except Failure ToolValue) :
    Option Signature × (Json.Fields → Act Rehearsal ToolValue) :=
  (none, fun fields => Act.of (p.bind fields >>= run))

/-- A tool with a signature. -/
def signed (s : Signature) (run : Json.Fields → Except Failure Json) :
    Option Signature × (Json.Fields → Act Rehearsal ToolValue) :=
  (some s, fun fields => Act.of ((run fields).map .data))

/-- A tool that fails in its first calls, as if another attempt might help. -/
def flaky (name : Text) (failures : Nat) :
    Option Signature × (Json.Fields → Act Rehearsal ToolValue) :=
  (none, fun fields => do
    let _ ← Act.of (Plain.bind ⟨"make_handler.<locals>.flaky", [], [], false⟩ fields)
    let n ← countCall name
    if n ≤ failures then Act.fail (.transient ("failure " ++ Numeral.print n) none)
    else return .data (.text ("ok after " ++ Numeral.print n)))

/-- Signature and work of a tool of a kind. -/
def work? (commitArguments : Signature) (name : Text) (kind : String) (failures : Nat) :
    Option (Option Signature × (Json.Fields → Act Rehearsal ToolValue)) :=
  match kind with
  | "echo" => some (signed echoSignature echo)
  | "measure" => some (signed measureSignature fun fields => .ok (.obj fields))
  | "commit_args" => some (signed commitArguments fun fields => .ok (argument fields "sha"))
  | "ping" => some (plain ⟨"ping", [], [], false⟩ fun _ => .ok (.data (.text "pong")))
  | "give" => some (plain ⟨"give", ["value"], [], false⟩ fun fields =>
      .ok (.data (argument fields "value")))
  | "join" => some (plain ⟨"join", ["parts"], ["sep"], false⟩ fun fields =>
      (join fields).map .data)
  | "lookup" => some (plain ⟨"lookup", ["key"], [], false⟩ fun fields =>
      .error (.missingKey (argument fields "key")))
  | "explode" => some (plain ⟨"explode", [], [], true⟩ fun _ =>
      .error (.outside .runtime "disk on fire"))
  | "inner_error" => some (plain ⟨"inner_error", ["message"], [], false⟩ fun fields =>
      .error (.toolFailed "inner" (argument fields "message").spoken none))
  | "parse_version" => some (plain ⟨"parse_version", ["text"], [], false⟩ fun fields => do
      let v ← Version.read (argument fields "text")
      return .shown (.text v.print))
  | "odd" => some (plain ⟨"odd", [], [], false⟩ fun _ => .ok (.shown oddValue))
  | "badkeys" => some (plain ⟨"badkeys", [], [], false⟩ fun _ => .ok (.unwritable .tupleKey))
  | "flaky" => some (flaky name failures)
  | _ => none

/-- The tool of a kind. -/
def tool? (commitArguments : Signature) (name description : Text) (kind : String)
    (failures : Nat) : Option (Tool Rehearsal) :=
  (work? commitArguments name kind failures).map fun (signature, run) =>
    ⟨name, description, signature, run⟩

end Rehearsal
end ReleaseNotes
