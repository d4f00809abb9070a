/-
The server.

It tells that it is there, which version follows another, and writes changelogs.  Bad input and
services that keep failing are answered as such; any other failure breaks the answer, and only then
no notice is left.

Main statements:
* `Server` — the writer behind the server;
* `Server.Route` — what the server can be asked for;
* `Server.serve` — the answer to a request.
-/
import ReleaseNotes.Server.Body
import ReleaseNotes.Server.Origin
import ReleaseNotes.Writer

namespace ReleaseNotes

/-- The writer behind a server. -/
structure Server (ω : Type) where
  writer : Writer ω

namespace Server

/-- What a server can be asked for. -/
inductive Route where
  | health
  | nextVersion
  | changelog
  deriving DecidableEq, Repr

namespace Route

/-- All routes. -/
def all : List Route := [health, nextVersion, changelog]

/-- The path of a route. -/
def path : Route → String
  | health => "/health"
  | nextVersion => "/version/next"
  | changelog => "/changelog"

/-- The method of a route. -/
def method : Route → String
  | health => "GET"
  | nextVersion | changelog => "POST"

/-- The route of a path, which a line feed may end. -/
def ofPath? (path : String) : Option Route :=
  all.find? fun route => route.path.toList == withoutBreak path.toList

end Route

/-- The name of the host in addresses. -/
def host : String := "testserver"

/-- The characters that may stand in an address as they are, beside letters and digits. -/
def plainInAddress : List Char := "_.-~:/%\x23?=@[]!$&'()*+,;".toList

/-- An address with every other character percent-encoded. -/
def encodedAddress (cs : List Char) : List Char :=
  cs.flatMap fun c =>
    if c.isAlphanum || plainInAddress.contains c then [c]
    else (String.singleton c).toUTF8.toList.flatMap Target.encodeByte

/-- The address of a path on this server, with the query of a request. -/
def addressOf (path : String) (r : Request) : String :=
  "http:/" ++ "/" ++ String.ofList (encodedAddress (host ++ path ++ r.target.querySuffix).toList)

/-- The answer where no route leads: a route that is meant with further slashes at the end is
pointed out. -/
def answerAstray (r : Request) : Answer :=
  let cs := r.path.toList
  let meant := String.ofList ((cs.reverse.dropWhile (· == '/')).reverse)
  if cs.getLast? = some '/' ∧ r.path ≠ "/" ∧ (Route.ofPath? meant).isSome then
    Answer.elsewhere (addressOf meant r)
  else Answer.explaining 404 "Not Found"

variable {ω : Type}

/-- The answer with the fields of a good result, unless they cannot be sent. -/
def answerWith (j : Json) : Act ω Answer :=
  match j.texts.findSome? Encoding.utf8.fault? with
  | some fault => Act.fail (.unencodable fault)
  | none => pure (Answer.ofJson 200 j.presentable)

/-- The answer to a checked body. -/
def answerTo {α : Type} (check : Check α) (r : Request) (act : α → Act ω Answer) : Act ω Answer :=
  match Body.check check r with
  | .ok a => act a
  | .error answer => Act.of answer

/-- The answer of a route. -/
def answerOf (s : Server ω) (r : Request) : Route → Act ω Answer
  | .health => pure (Answer.ofJson 200 (.record [("status", .text "healthy")]))
  | .nextVersion => answerTo VersionQuery.check r fun q => do
    answerWith (← Act.of q.answer).toJson
  | .changelog => answerTo Release.check r fun release => do
    answerWith (← s.writer.write release).toJson

/-- The answer to a failure, unless it breaks the answer. -/
def answerFailure (f : Failure) : Act ω Answer :=
  let report := fun (status : Nat) (kind : String) =>
    let j := Json.record [("error", .text kind), ("detail", .str f.message)]
    if j.isSendable then (pure (Answer.ofJson status j) : Act ω Answer) else Act.fail f
  if f.isInput then report 422 "validation_error"
  else if f.isTransient then report 503 "upstream_unavailable"
  else Act.fail f

/-- The answer of the route of a request. -/
def answerRouted (s : Server ω) (r : Request) : Act ω Answer :=
  match Route.ofPath? r.path with
  | none => pure (answerAstray r)
  | some route =>
    if route.method = r.method then (s.answerOf r route).rescue answerFailure
    else pure ((Answer.explaining 405 "Method Not Allowed").adding [("allow", route.method)])

/-- The answer to a request, or to the question that comes before it. -/
def answer (s : Server ω) (r : Request) : Act ω Answer :=
  match Origin.preflight? r with
  | some a => pure a
  | none => do return Origin.mark r (← s.answerRouted r)

/-- The answer to a request, as the client sees it. -/
def serve (s : Server ω) (r : Request) : Act ω Answer := do
  let a ← (do
    let a ← s.answer r
    Act.notice (.served r.method r.shownPath a.status)
    return a : Act ω Answer).rescue fun _ => pure Answer.broken
  return a.seenWith r.method

/-- The answers to requests, one after another. -/
def serveAll (s : Server ω) : List Request → Act ω (List Answer)
  | [] => pure []
  | r :: rest => do
    let a ← s.serve r
    return a :: (← s.serveAll rest)

end Server
end ReleaseNotes
