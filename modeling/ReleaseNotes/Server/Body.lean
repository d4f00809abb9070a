/-
Bodies of requests.

The body of a request is a JSON value if its content type says so, and a text otherwise.  What is
wrong with a body is answered problem by problem, each with the value it was found at.

Main statements:
* `Server.Request.isJson` — whether the body is JSON;
* `Server.Body.read` — the value of a body;
* `Server.Body.check` — a checked value of a body, or the answer to a bad one.
-/
import ReleaseNotes.Json.Sendable
import ReleaseNotes.Server.Exchange
import ReleaseNotes.Validation.Check

namespace ReleaseNotes
namespace Server

namespace Request

/-- The type that a content type names, and its part behind the slash. -/
def mediaType (contentType : String) : Option (String × String) :=
  let name := Spelling.trim (contentType.toList.takeWhile (· != ';'))
  match name.splitOn '/' with
  | [type, part] => some ((String.ofList type).toLower, (String.ofList part).toLower)
  | _ => none

/-- Whether the body of a request is JSON. -/
def isJson (r : Request) : Bool :=
  match (r.header? "content-type").bind mediaType with
  | some (type, part) => type == "application" && (part == "json" || part.endsWith "+json")
  | none => false

end Request

namespace Body

/-- A problem that an answer tells: its place in the body, the value found there, and more on it. -/
def detail (code : String) (place : List Json) (message : String) (input : Json)
    (context : List (String × Json)) : Json :=
  .record ([
    ("type", .text code), ("loc", .arr (.text "body" :: place)), ("msg", .text message),
    ("input", input)] ++ if context.isEmpty then [] else [("ctx", .record context)])

/-- What an answer says more on a cause. -/
def context : Cause → List (String × Json)
  | .shortString least => [("min_length", .nat least)]
  | .mismatch pattern => [("pattern", .text pattern)]
  | .notChoice choices => [("expected", .text (Cause.alternatives choices))]
  | .notLiteral choices => [("expected", .text (Cause.alternatives choices))]
  | .shortList least actual =>
    [("field_type", .text "List"), ("min_length", .nat least), ("actual_length", .nat actual)]
  | .longList most actual =>
    [("field_type", .text "List"), ("max_length", .nat most), ("actual_length", .nat actual)]
  | .below bound => [("ge", .int bound)]
  | .atOrBelow bound => [("gt", .int bound)]
  | .above bound => [("le", .int bound)]
  | .rule _ => [("error", .obj [])]
  | _ => []

/-- A step to a part of the body. -/
def stepJson : Step → Json
  | .field name => .text name
  | .index i => .nat i

/-- A problem of a checked body. -/
def ofProblem (p : Problem) : Json :=
  let place := p.place.map stepJson
  match p.cause with
  | .notObject _ =>
    detail "model_attributes_type" place
      "Input should be a valid dictionary or object to extract fields from" p.input []
  | cause => detail cause.code place cause.message p.input (context cause)

/-- The answer that tells problems, unless one of the values found cannot be sent. -/
def refuse (details : List Json) : Except Failure Answer :=
  if Json.areSendable details then .ok (Answer.ofJson 422 (.record [("detail", .arr details)]))
  else .error (.outside .value "Out of range float values are not JSON compliant")

/-- A body that has no value, and why. -/
inductive Fault where
  | absent
  | malformed (problem : String) (position : Nat)
  | unreadable

/-- The answer to a body that has no value. -/
def Fault.answer : Fault → Except Failure Answer
  | absent => refuse [ofProblem ⟨[], .missing, .null⟩]
  | malformed problem position =>
    refuse [detail "json_invalid" [.nat position] "JSON decode error" (.obj [])
      [("error", .text problem)]]
  | unreadable => .ok (Answer.explaining 400 "There was an error parsing the body")

/-- The value of the body of a request. -/
def read (r : Request) : Except Fault Json :=
  if r.body = "" then .error .absent
  else if !r.isJson then .ok (.text r.body)
  else match Json.decodeMarked r.body with
    | .ok j => .ok j
    | .error (.malformed problem position _ _) => .error (.malformed problem.message position)
    | .error _ => .error .unreadable

/-- The checked value of the body of a request, or the answer to a bad one. -/
def check {α : Type} (c : Check α) (r : Request) : Except (Except Failure Answer) α :=
  match read r with
  | .error fault => .error fault.answer
  | .ok j => match c j with
    | .ok a => .ok a
    | .bad problems => .error (refuse (problems.map ofProblem))

end Body
end Server
end ReleaseNotes
