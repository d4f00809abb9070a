/-
Requests from other origins.

A page may send requests to a server that it does not come from, if the server says so.  This server
lets every origin in; a browser asks beforehand which methods and headers it may use.

Main statements:
* `Server.Origin.preflight?` — the answer to the question that a browser asks beforehand;
* `Server.Origin.mark` — an answer that names the origin that is let in.
-/
import ReleaseNotes.Server.Exchange

namespace ReleaseNotes
namespace Server
namespace Origin

/-- The methods that may be used. -/
def methods : List String :=
  ["DELETE", "GET", "HEAD", "OPTIONS", "PATCH", "POST", "PUT", "QUERY"]

/-- For how many seconds an answer to the question beforehand holds. -/
def maxAge : Nat := 600

/-- The headers of a request that the question beforehand depends on. -/
def questionHeaders : List String := [
  "Origin", "Access-Control-Request-Method", "Access-Control-Request-Headers",
  "Access-Control-Request-Private-Network"]

/-- The headers that let an origin in. -/
def letIn (origin : String) : List (String × String) := [
  ("access-control-allow-origin", origin), ("access-control-allow-credentials", "true")]

/-- The answer to the question beforehand. -/
def preflight (r : Request) (origin method : String) : Answer :=
  let refused :=
    (if methods.contains method then [] else ["method"]) ++
      (if (r.header? "access-control-request-private-network").isSome then ["private-network"]
        else [])
  let answer :=
    if refused.isEmpty then Answer.ofText 200 "OK"
    else Answer.ofText 400 ("Disallowed CORS " ++ String.intercalate ", " refused)
  answer.adding (letIn origin ++ [
    ("access-control-allow-methods", String.intercalate ", " methods),
    ("access-control-max-age", Numeral.print maxAge),
    ("vary", String.intercalate ", " questionHeaders)] ++
    ((r.header? "access-control-request-headers").elim [] fun names =>
      [("access-control-allow-headers", names)]))

/-- The answer to a request that is a question beforehand. -/
def preflight? (r : Request) : Option Answer :=
  if r.method = "OPTIONS" then do
    let origin ← r.header? "origin"
    let method ← r.header? "access-control-request-method"
    return preflight r origin method
  else none

/-- An answer that names the origin that is let in. -/
def mark (r : Request) (a : Answer) : Answer :=
  a.adding ((r.header? "origin").elim [] letIn ++ [("vary", "Origin")])

end Origin
end Server
end ReleaseNotes
