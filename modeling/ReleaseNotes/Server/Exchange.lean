/-
Requests and answers.

What a client asks for, and what it gets: a status, headers and content.  The names of headers are
alike in capitals and in small letters.

Main statements:
* `Server.Request`, `Server.Request.of` — requests;
* `Server.Request.path` — the path of a request without percent signs;
* `Server.Answer` — answers, with `Answer.ofJson` and `Answer.ofText`.
-/
import ReleaseNotes.Json.Decode
import ReleaseNotes.Text.Bytes
import ReleaseNotes.Web.Target

namespace ReleaseNotes
namespace Server

/-- A request.  Its method is in capitals, the names of its headers are in small letters, and its
body is a string. -/
structure Request where
  method : String
  target : Target
  headers : List (String × String)
  body : String

namespace Request

/-- The address without the name of a host, which two slashes stand before. -/
def withoutHost : List Char → List Char
  | '/' :: '/' :: cs => cs.dropWhile fun c => c != '/' && c != '?' && c != '#'
  | cs => cs

/-- The request for an address, unless the address is refused. -/
def of (method address : String) (headers : List (String × String)) (body : String) :
    Except AddressProblem Request := do
  let target ← Target.of (String.ofList (withoutHost address.toList))
  return ⟨method.toUpper, target, headers.map fun (name, v) => (name.toLower, v), body⟩

/-- The value of a header. -/
def header? (r : Request) (name : String) : Option String := r.headers.lookup name

/-- The bytes that a text with percent signs stands for. -/
def decodedBytes : List Char → List UInt8
  | '%' :: a :: b :: cs =>
    match Json.Reader.hexValue? a, Json.Reader.hexValue? b with
    | some x, some y => UInt8.ofNat (16 * x + y) :: decodedBytes cs
    | _, _ => '%'.toUInt8 :: decodedBytes (a :: b :: cs)
  | c :: cs => (String.singleton c).toUTF8.toList ++ decodedBytes cs
  | [] => []

/-- Whether a character is one of ASCII. -/
def isAscii (c : Char) : Bool := c.toNat < 0x80

/-- A run of characters, all or none of which are ASCII, with its percent signs resolved. -/
def decodedRun (cs : List Char) : List Char :=
  if cs.all isAscii then Bytes.chars (decodedBytes cs) else cs

/-- A text with its percent signs resolved, in each run of ASCII characters by itself. -/
def decoded (cs : List Char) : List Char :=
  (cs.splitBy fun a b => isAscii a == isAscii b).flatMap decodedRun

/-- The path with its percent signs resolved, once by the client and once by the server. -/
def path (r : Request) : String :=
  let sent := if r.target.path = "" then "/" else r.target.path
  String.ofList (decoded (decoded sent.toList))

/-- Whether a character has no place in an address. -/
def isDropped (c : Char) : Bool := c == '\t' || c == '\r' || c == '\n'

/-- The path as a log shows it: up to what would begin a query or a fragment, and without line
breaks and tabs. -/
def shownPath (r : Request) : String :=
  String.ofList
    ((r.path.toList.filter (!isDropped ·)).takeWhile fun c => c != '?' && c != '#')

end Request

/-- What an answer holds. -/
inductive Content where
  | empty
  | text (s : String)
  | json (j : Json)

/-- An answer. -/
structure Answer where
  status : Nat
  headers : List (String × String)
  content : Content

namespace Answer

/-- The answer with one more header. -/
def adding (a : Answer) (headers : List (String × String)) : Answer :=
  { a with headers := a.headers ++ headers }

/-- The header for the type of a content. -/
def typed (type : String) : List (String × String) := [("content-type", type)]

/-- An answer with a value. -/
def ofJson (status : Nat) (j : Json) : Answer := ⟨status, typed "application/json", .json j⟩

/-- An answer with a text. -/
def ofText (status : Nat) (s : String) : Answer :=
  ⟨status, typed "text/plain; charset=utf-8", .text s⟩

/-- An answer with a short explanation. -/
def explaining (status : Nat) (explanation : String) : Answer :=
  ofJson status (.record [("detail", .text explanation)])

/-- The answer that takes the client to another address. -/
def elsewhere (address : String) : Answer := ⟨307, [("location", address)], .empty⟩

/-- The answer to a request that cannot be served. -/
def broken : Answer := ofText 500 "Internal Server Error"

/-- The answer as a client sees it that asked with a method: `HEAD` asks for no content. -/
def seenWith (a : Answer) (method : String) : Answer :=
  if method = "HEAD" then { a with content := .empty } else a

end Answer
end Server
end ReleaseNotes
