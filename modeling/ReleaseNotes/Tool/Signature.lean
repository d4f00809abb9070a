/-
Signatures of tools.

The arguments that a tool declares: their names, kinds, bounds and defaults.  One declaration serves
the check of the arguments of a call and the description that the model is given.

Main statements:
* `Signature` — a declaration of arguments;
* `Signature.check` — arguments read from a value, defaults filled in, unknown names dropped;
* `Signature.schema` — the description of the arguments.
-/
import ReleaseNotes.Release.Kind
import ReleaseNotes.Validation.Check

namespace ReleaseNotes

/-- The kinds of argument. -/
inductive ArgumentKind where
  /-- A text of so many characters at least. -/
  | text (least : Option Nat)
  /-- An integer between bounds. -/
  | integer (least most : Option Int)
  /-- A number above a bound. -/
  | number (above : Option Int)
  /-- A truth value. -/
  | boolean
  /-- A list of so many texts at most. -/
  | texts (most : Option Nat)
  /-- A kind of release, or null. -/
  | releaseKind
  /-- Any other value of one argument, with its own check and the parts of its description. -/
  | other (check : Check Json) (described : List (String × Json))

/-- An argument that a tool declares. -/
structure Argument where
  name : String
  title : String
  kind : ArgumentKind
  description : Option String := none
  default : Option Json := none

/-- The arguments that a tool declares.  They are checked one by one: no check looks at several of
them, names that are not declared are dropped and neither refused nor kept, no argument is computed
from others, and a check finds problems and raises nothing else. -/
structure Signature where
  name : String
  description : Option String := none
  arguments : List Argument

namespace ArgumentKind

/-- What keeps an integer from lying between bounds. -/
def boundProblem? (least most : Option Int) (n : Int) : Option Cause :=
  match least.filter fun b => n < b with
  | some b => some (.below b)
  | none => (most.filter fun b => b < n).map .above

/-- A value of the kind. -/
def check : ArgumentKind → Check Json
  | text none => Check.map .str Check.text
  | text (some least) => Check.map .text (Check.stringOf least)
  | integer least most => fun j => (Check.integer j).andThen fun n =>
    match boundProblem? least most n with
    | some cause => Check.refuse cause j
    | none => .ok (.int n)
  | number above => fun j => (Check.number j).andThen fun x =>
    match above.filter fun b => !(Check.bound b < x) with
    | some b => Check.refuse (.atOrBelow b) j
    | none => .ok (.float x)
  | boolean => Check.map .bool Check.boolean
  | texts most => fun j =>
    let items := match most with
      | some m => Check.listUpTo m Check.text j
      | none => Check.list Check.text j
    items.map fun l => .arr (l.map .str)
  | releaseKind => fun j =>
    (Check.nullable (Check.choice ReleaseKind.word ReleaseKind.all) j).map fun k =>
      k.elim .null fun k => .text k.word
  | other check _ => check

/-- What the documentation of a kind of release says. -/
def releaseKindText : String :=
  "Which semantic version component a release bumps.\n\n" ++
  "PATCH: Fixes only, 1.4.7 -> 1.4.8\n" ++
  "MINOR: New functionality, 1.4.7 -> 1.5.0\n" ++
  "MAJOR: Breaking changes, 1.4.7 -> 2.0.0"

/-- The definition of the kinds of release in a description. -/
def releaseKindSchema : Json :=
  .record [
    ("description", .text releaseKindText),
    ("enum", .arr (ReleaseKind.all.map fun k => .text k.word)),
    ("title", .text "ReleaseType"), ("type", .text "string")]

/-- The parts of a description that belong to the kind, each with its name. -/
def parts : ArgumentKind → List (String × Json)
  | text least =>
    (least.elim [] fun n => [("minLength", .nat n)]) ++ [("type", .text "string")]
  | integer least most =>
    (most.elim [] fun n => [("maximum", .int n)]) ++
      (least.elim [] fun n => [("minimum", .int n)]) ++ [("type", .text "integer")]
  | number above =>
    (above.elim [] fun n => [("exclusiveMinimum", .int n)]) ++ [("type", .text "number")]
  | boolean => [("type", .text "boolean")]
  | texts most =>
    [("items", .record [("type", .text "string")])] ++
      (most.elim [] fun n => [("maxItems", .nat n)]) ++ [("type", .text "array")]
  | releaseKind =>
    [("anyOf", .arr [
      .record [("$ref", .text "#/$defs/ReleaseType")], .record [("type", .text "null")]])]
  | other _ described => described

/-- Whether a default of the kind is a part of a description. -/
def showsDefault : ArgumentKind → Bool
  | texts _ => false
  | _ => true

/-- Whether the kind has a title of its own in a description. -/
def showsTitle : ArgumentKind → Bool
  | releaseKind => false
  | _ => true

end ArgumentKind

namespace Argument

/-- The checked value of an argument. -/
def read (fields : Json.Fields) (a : Argument) : Validated (Text × Json) :=
  let value := match a.default with
    | some d => Check.optional fields a.name d a.kind.check
    | none => Check.required fields a.name a.kind.check
  value.map fun v => (Text.ofString a.name, v)

/-- The description of an argument, its parts in the order of their names. -/
def schema (a : Argument) : Json :=
  let shownDefault := match a.default with
    | some d => if a.kind.showsDefault then [("default", d)] else []
    | none => []
  let described := a.description.elim [] fun d => [("description", Json.text d)]
  let titled := if a.kind.showsTitle then [("title", Json.text a.title)] else []
  .record ((a.kind.parts ++ shownDefault ++ described ++ titled).mergeSort
    fun p q => p.1 ≤ q.1)

end Argument

namespace Signature

/-- The checked values of arguments, in the order of their declaration. -/
def readAll (fields : Json.Fields) : List Argument → Validated Json.Fields
  | [] => .ok []
  | a :: rest => ((a.read fields).map List.cons).ap (readAll fields rest)

/-- The arguments of a call read from a value. -/
def check (s : Signature) : Check Json.Fields :=
  Check.object s.name fun fields => readAll fields s.arguments

/-- Whether an argument is a kind of release. -/
def usesReleaseKind (s : Signature) : Bool :=
  s.arguments.any fun a => match a.kind with
    | .releaseKind => true
    | _ => false

/-- The description of the arguments. -/
def schema (s : Signature) : Json :=
  let definitions := if s.usesReleaseKind then
      [("$defs", Json.record [("ReleaseType", ArgumentKind.releaseKindSchema)])]
    else []
  let described := s.description.elim [] fun d => [("description", Json.text d)]
  let needed := (s.arguments.filter fun a => a.default.isNone).map fun a => Json.text a.name
  let required := if needed.isEmpty then [] else [("required", Json.arr needed)]
  .record (definitions ++ described ++
    [("properties", .record (s.arguments.map fun a => (a.name, a.schema)))] ++ required ++
    [("title", .text s.name), ("type", .text "object")])

end Signature
end ReleaseNotes
