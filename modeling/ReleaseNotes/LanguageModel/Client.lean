/-
The client of the language model.

One request for one reply.  Failures on the way, too many requests and failures of the server may be
tried again; any other answer that is no success is a failure for good.

Main statements:
* `LanguageModel` — the settings of the client and its key;
* `LanguageModel.statusFailure` — what an answer that is no success is told as;
* `LanguageModel.valueOf` — the value of an answer;
* `LanguageModel.content` — the text of a reply;
* `LanguageModel.service` — the client as a partner of a dialogue.
-/
import ReleaseNotes.GitHub.Client

namespace ReleaseNotes

/-- The settings of the client, and its key, which is empty if there is none. -/
structure LanguageModel where
  settings : ModelSettings
  key : Text

namespace LanguageModel

variable {ω : Type}

/-- The host of the service. -/
def host : String := "api.openai.com"

/-- The target of a request. -/
def target : String := "/v1/chat/completions"

/-- The client with the key of its settings, or with the one of the environment if none is set. -/
def new (settings : ModelSettings) (environment : String) : LanguageModel :=
  ⟨settings, settings.key.getD environment⟩

/-- A turn as the service takes it. -/
def message (role : String) (content : Text) : Json :=
  .record [("role", .text role), ("content", .str content)]

/-- What is sent for a dialogue. -/
def body (m : LanguageModel) (system : Text) (turns : List Turn) : Json :=
  .record [
    ("messages", .arr (message "system" system :: turns.map Turn.toJson)),
    ("model", .str m.settings.name), ("max_tokens", .int m.settings.maxTokens),
    ("temperature", .float m.settings.temperature)]

/-- The header that names the key. -/
def authorization (m : LanguageModel) : Text := "Bearer " ++ m.key

/-- The request for a reply. -/
def request (m : LanguageModel) (system : Text) (turns : List Turn) : WebRequest where
  method := "POST"
  host := host
  target := target
  accept := "application/json"
  apiVersion := none
  authorization := some m.authorization
  timeout := m.settings.timeout
  body := some (m.body system turns)

/-- The names of the statuses that have one. -/
def statusNames : List (Nat × String) := [
  (400, "BadRequestError"), (401, "AuthenticationError"), (403, "PermissionDeniedError"),
  (404, "NotFoundError"), (409, "ConflictError"), (422, "UnprocessableEntityError"),
  (429, "RateLimitError")]

/-- The name of the failure that a status stands for. -/
def statusName (status : Nat) : String :=
  if 500 ≤ status then "InternalServerError"
  else (statusNames.lookup status).getD "APIStatusError"

/-- The message in the body of an answer that is no success. -/
def bodyMessage? (body : String) : Option Text :=
  match Json.decode body with
  | .ok (.obj fields) =>
    match ((Json.lookup (Text.ofString "error") fields).getD (.obj fields)).field? "message" with
    | some (.str t) => if t.isEmpty then none else some t
    | _ => none
  | _ => none

/-- The text of the failure that an answer stands for. -/
def statusText (status : Nat) (body : String) : Text :=
  let detail : Text := (bodyMessage? body).elim [] fun t => " - " ++ t
  "Error code: " ++ Numeral.print status ++ detail

/-- A failure that may be tried again. -/
def passing (kind : String) (text : Text) : Failure :=
  .transient ("LLM request failed: " ++ text) (some (.other kind))

/-- What an answer that is no success is told as. -/
def statusFailure (status : Nat) (body : String) : Failure :=
  let kind := statusName status
  let text := statusText status body
  if status = 429 ∨ 500 ≤ status then passing kind text else .outside (.other kind) text

/-- Whether a failure on the way is one of time. -/
def isTimeout (kind : String) : Bool :=
  ["TimeoutException", "ConnectTimeout", "ReadTimeout", "WriteTimeout", "PoolTimeout"].contains kind

/-- What a failure on the way is told as. -/
def wayFailure (kind : String) : Failure :=
  if isTimeout kind then passing "APITimeoutError" "Request timed out."
  else passing "APIConnectionError" "Connection error."

/-- A member of an object, null if it is absent. -/
def member (j : Json) (name : String) : Except Failure Json :=
  match j with
  | .obj _ => .ok ((j.field? name).getD .null)
  | j => .error (.misuse (.noMember j.kindName name))

/-- The first item of a value. -/
def first : Json → Except Failure Json
  | .arr (j :: _) => .ok j
  | .arr [] => .error .missingItem
  | .obj _ => .error (.missingKey (.int 0))
  | .str (u :: _) => .ok (.str [u])
  | .str [] => .error (.outside .index "string index out of range")
  | j => .error (.misuse (.notSubscriptable j.kindName))

/-- The text of a reply, empty where nothing stands. -/
def content (answer : Json) : Except Failure Json := do
  let choice ← first (← member answer "choices")
  let text ← member (← member choice "message") "content"
  return if text.isVoid then .text "" else text

/-- How many items a value has. -/
def size : Json → Except Failure Nat
  | .str t => .ok t.length
  | .arr items => .ok items.length
  | .obj fields => .ok fields.length
  | j => .error (.misuse (.noLength j.kindName))

/-- Whether the headers of an answer call it JSON. -/
def isCalledJson (headers : List (String × String)) : Bool :=
  match headers.find? fun h => h.1.toLower == "content-type" with
  | some (_, kind) =>
    "json".toList.reverse.isPrefixOf (kind.toList.takeWhile (· != ';')).reverse
  | none => false

/-- The value of an answer.  An answer that is not called JSON may be one all the same, and is a
text if it is none. -/
def valueOf (headers : List (String × String)) (body : String) : Except Failure Json :=
  match Json.decodeMarked body with
  | .ok j => .ok j
  | .error e => if isCalledJson headers then .error (.json e) else .ok (.text body)

/-- How an answer is read: the text of the reply, and its length. -/
def read : WebAnswer → Except Failure (Json × Nat)
  | .failure kind _ => .error (wayFailure kind)
  | .response status headers body =>
    if Status.isSuccess status then do
      let answer ← valueOf headers body
      let text ← content answer
      return (text, ← size text)
    else .error (statusFailure status body)

/-- The message on a key that is missing. -/
def keyMissing : Text :=
  "Missing credentials. Please pass an \x60api_key\x60, \x60workload_identity\x60, " ++
    "\x60admin_api_key\x60, or set the \x60OPENAI_API_KEY\x60 or \x60OPENAI_ADMIN_KEY\x60 " ++
    "environment variable."

/-- What keeps the request for a reply from being sent: there is no key, the header that names it is
not ASCII, or what is sent holds a float that is no number or a text that has no encoding. -/
def obstacle? (m : LanguageModel) (system : Text) (turns : List Turn) : Option Failure :=
  if m.key = [] then some (.outside (.other "OpenAIError") keyMissing)
  else match Encoding.ascii.fault? m.authorization with
    | some fault => some (.unencodable fault)
    | none =>
      if m.settings.temperature.isNaN || m.settings.temperature.isInf then
        some (.outside .value "Out of range float values are not JSON compliant")
      else (Encoding.utf8.fault? ((m.body system turns).compact .message)).map .unencodable

/-- The client as a partner of a dialogue. -/
def service (m : LanguageModel) (transport : Transport ω) : Service ω := fun system turns =>
  match m.obstacle? system turns with
  | some f => Act.fail f
  | none => do
    let r := m.request system turns
    Act.leave (.requested r)
    let answer ← transport r
    let (text, characters) ← Act.of (read answer)
    Act.notice (.replied m.settings.name turns.length characters)
    return text

end LanguageModel

/-- The way to the language model that follows its script. -/
def Rehearsal.languageModelTransport : Transport Rehearsal := fun _ w =>
  match nextOf w.languageModel with
  | (some answer, left) => ⟨.ok answer, { w with languageModel := left }, []⟩
  | (none, _) => ⟨.ok (.failure "ConnectError" "no answer"), w, []⟩

end ReleaseNotes
