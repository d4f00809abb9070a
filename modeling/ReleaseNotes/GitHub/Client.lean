/-
The GitHub client.

One request for one commit.  Failures on the way, too many requests and failures of the server may
be tried again; any other answer that is no success is a failure for good.

Main statements:
* `Transport` — whatever takes a request to its host;
* `GitHubClient` — the settings of the client;
* `GitHubClient.read` — how an answer is read;
* `GitHubClient.source` — the commits that the client fetches.
-/
import ReleaseNotes.GitHub.Payload
import ReleaseNotes.Rehearsal.Basic
import ReleaseNotes.Tool.CommitTools
import ReleaseNotes.Web.Status

namespace ReleaseNotes

/-- Whatever takes a request to its host and brings the answer. -/
abbrev Transport (ω : Type) := WebRequest → Act ω WebAnswer

/-- The settings of the client. -/
structure GitHubClient where
  token : String
  timeout : Float

namespace GitHubClient

variable {ω : Type}

/-- The host of the service. -/
def host : String := "api.github.com"

/-- The form of answers that is asked for. -/
def accept : String := "application/vnd.github.v3+json"

/-- The version of the service that is asked for. -/
def apiVersion : String := "2022-11-28"

/-- The time that a request may take unless it is set. -/
def standardTimeout : Float := 30.0

/-- The client with a token, or with the one of the environment if none is given. -/
def new (token environment : String) (timeout : Float) : GitHubClient :=
  ⟨if token = "" then environment else token, timeout⟩

/-- The address of a commit. -/
def address (repository sha : Text) : Text := "/repos/" ++ repository ++ "/commits/" ++ sha

/-- The header that names the token, if there is one. -/
def authorization? (c : GitHubClient) : Option Text :=
  if c.token = "" then none else some ("Bearer " ++ c.token)

/-- The request for a target. -/
def request (c : GitHubClient) (target : Target) : WebRequest where
  method := "GET"
  host := host
  target := target.sent
  accept := accept
  apiVersion := some apiVersion
  authorization := c.authorization?
  timeout := c.timeout

/-- What keeps requests from being sent: a header that is not ASCII. -/
def obstacle? (c : GitHubClient) : Option EncodingFault :=
  c.authorization?.bind Encoding.ascii.fault?

/-- The failures of the way to the host and back. -/
def transportFailures : List String := [
  "TransportError", "TimeoutException", "ConnectTimeout", "ReadTimeout", "WriteTimeout",
  "PoolTimeout", "NetworkError", "ConnectError", "ReadError", "WriteError", "CloseError",
  "ProtocolError", "LocalProtocolError", "RemoteProtocolError", "ProxyError",
  "UnsupportedProtocol"]

/-- Whether a status may be another one the next time. -/
def isPassing (status : Nat) : Bool := status == 429 || 500 ≤ status

/-- How an answer on a commit is read. -/
def read (target : Target) (sha : Text) : WebAnswer → Except Failure CommitDiff
  | .failure kind message =>
    if transportFailures.contains kind then
      .error (.transient ("GitHub request failed: " ++ message) (some (.other kind)))
    else .error (.outside (.other kind) message)
  | .response status headers body =>
    if isPassing status then
      .error (.transient
        ("GitHub returned " ++ Numeral.print status ++ " for commit " ++ sha) none)
    else if Status.isSuccess status then do
      let data ← (Json.decodeMarked body).mapError .json
      CommitDiff.ofPayload data
    else
      let location := (headers.find? fun h => h.1.toLower == "location").map Prod.snd
      .error (.outside (.other "HTTPStatusError")
        (Status.report status (secureAddress (host ++ target.shown)) location))

/-- The commits that the client fetches. -/
def source (c : GitHubClient) (transport : Transport ω) : CommitSource ω :=
  fun repository sha => match c.obstacle? with
    | some fault => Act.fail (.unencodable fault)
    | none => do
      let target ← Act.of ((Target.of (address repository sha)).mapError AddressProblem.failure)
      let r := c.request target
      Act.leave (.requested r)
      let answer ← transport r
      Act.of (read target sha answer)

end GitHubClient

/-- The way to GitHub that follows its script. -/
def Rehearsal.githubTransport : Transport Rehearsal := fun _ w =>
  match nextOf w.github with
  | (some answer, left) => ⟨.ok answer, { w with github := left }, []⟩
  | (none, _) => ⟨.ok (.failure "ConnectError" "no answer"), w, []⟩

end ReleaseNotes
