/-
Statuses of answers.

The phrases of the statuses, and the report on an answer that is no success.

Main statements:
* `Status.phrase` — the phrase of a status;
* `Status.isSuccess` — the statuses of success;
* `Status.report` — the report on any other status.
-/
import ReleaseNotes.Web.Target

namespace ReleaseNotes
namespace Status

/-- The phrases of the statuses. -/
def phrases : List (Nat × String) := [
  (100, "Continue"), (101, "Switching Protocols"), (102, "Processing"), (103, "Early Hints"),
  (200, "OK"), (201, "Created"), (202, "Accepted"), (203, "Non-Authoritative Information"),
  (204, "No Content"), (205, "Reset Content"), (206, "Partial Content"), (207, "Multi-Status"),
  (208, "Already Reported"), (226, "IM Used"), (300, "Multiple Choices"),
  (301, "Moved Permanently"), (302, "Found"), (303, "See Other"), (304, "Not Modified"),
  (305, "Use Proxy"), (307, "Temporary Redirect"), (308, "Permanent Redirect"),
  (400, "Bad Request"), (401, "Unauthorized"), (402, "Payment Required"), (403, "Forbidden"),
  (404, "Not Found"), (405, "Method Not Allowed"), (406, "Not Acceptable"),
  (407, "Proxy Authentication Required"), (408, "Request Timeout"), (409, "Conflict"),
  (410, "Gone"), (411, "Length Required"), (412, "Precondition Failed"),
  (413, "Request Entity Too Large"), (414, "Request-URI Too Long"),
  (415, "Unsupported Media Type"), (416, "Requested Range Not Satisfiable"),
  (417, "Expectation Failed"), (418, "I'm a teapot"), (421, "Misdirected Request"),
  (422, "Unprocessable Entity"), (423, "Locked"), (424, "Failed Dependency"), (425, "Too Early"),
  (426, "Upgrade Required"), (428, "Precondition Required"), (429, "Too Many Requests"),
  (431, "Request Header Fields Too Large"), (451, "Unavailable For Legal Reasons"),
  (500, "Internal Server Error"), (501, "Not Implemented"), (502, "Bad Gateway"),
  (503, "Service Unavailable"), (504, "Gateway Timeout"), (505, "HTTP Version Not Supported"),
  (506, "Variant Also Negotiates"), (507, "Insufficient Storage"), (508, "Loop Detected"),
  (510, "Not Extended"), (511, "Network Authentication Required")]

/-- The phrase of a status, empty for a status without one. -/
def phrase (status : Nat) : String := (phrases.lookup status).getD ""

/-- Whether a status is one of success. -/
def isSuccess (status : Nat) : Bool := 200 ≤ status && status < 300

/-- The statuses that send the client elsewhere. -/
def redirects : List Nat := [301, 302, 303, 307, 308]

/-- The class of a status. -/
def className (status : Nat) : String :=
  match status / 100 with
  | 1 => "Informational response"
  | 3 => "Redirect response"
  | 4 => "Client error"
  | 5 => "Server error"
  | _ => "Invalid status code"

/-- The report on an answer that is no success. -/
def report (status : Nat) (address : String) (location : Option String) : String :=
  let elsewhere := match location with
    | some l => if redirects.contains status then "Redirect location: '" ++ l ++ "'\n" else ""
    | none => ""
  className status ++ " '" ++ Numeral.print status ++ " " ++ phrase status ++ "' for url '" ++
    address ++ "'\n" ++ elsewhere ++ "For more information check: " ++
    secureAddress ("developer.mozilla.org/en-US/docs/Web/HTTP/Status/" ++ Numeral.print status)

end Status
end ReleaseNotes
