import SelectorTutorial.Backend.Call
import SelectorTutorial.Backend.Detail
import SelectorTutorial.Backend.Message
import SelectorTutorial.Url.Reader

/-! Where a backend is, what is sent to it for each call, and what its replies mean. -/

namespace SelectorTutorial

/-- A backend, known by the URL under which all its resources lie. -/
structure Api where
  /-- The text of that URL, with no slash at its end. -/
  base : String
  /-- The URL itself, with one slash at its end. -/
  url : Url
  /-- The text denotes the URL. -/
  url_eq : Url.ofText none (base ++ "/") = .ok url

namespace Api

/-- The backend under a base; slashes at the end of it do not count. -/
def ofBase (text : String) : Except BackendError Api :=
  let base := Text.dropTrailingSlashes text
  match denotes : Url.ofText none (base ++ "/") with
  | .ok url => .ok ⟨base, url, denotes⟩
  | .error fault => .error (.invalidUrl base fault.message)

/-- The URL of an asset, which is relative to the base unless it is complete. -/
def assetUrl (api : Api) (raw : String) : Except BackendError Url :=
  let raw := Text.trim raw
  if raw = "" then .error (.invalidUrl raw "empty asset url")
  else match Url.ofText (some api.url) raw with
    | .ok url => .ok url
    | .error fault => .error (.invalidUrl raw fault.message)

/-- The URL of a lesson: its id is one more segment, whatever characters it has. -/
def lessonUrl (api : Api) (id : Lesson.Id) : Except BackendError Url :=
  match api.url.extend? ["lessons", id.text] with
  | some url => .ok url
  | none => .error (.invalidUrl api.base "api base cannot carry a path")

/-- The URL of a resource that has a fixed place below the base. -/
def endpointUrl (api : Api) (endpoint : String) : Except BackendError Url :=
  match Url.ofText none (api.base ++ endpoint) with
  | .ok url => .ok url
  | .error fault => .error (.unreachable fault.message)

/-- The place below the base at which a call is made, unless it is the call for an asset. -/
def endpoint : BackendCall → String
  | .lessons => "/lessons"
  | .examples => "/examples"
  | .health => "/health"
  | .lesson id => "/lessons/" ++ id.text
  | .compile _ => "/model/compile"
  | .select _ => "/selection/run"
  | .asset _ => ""

/-- The URL at which a call is made. -/
def urlOf (api : Api) : BackendCall → Except BackendError Url
  | .lesson id => api.lessonUrl id
  | .asset raw => api.assetUrl raw
  | call => api.endpointUrl (endpoint call)

/-- The name of the place at which a call is made, as errors have it. -/
def place (api : Api) : BackendCall → String
  | .asset raw =>
    match api.assetUrl raw with
    | .ok url => url.path.text
    | .error _ => ""
  | call => endpoint call

/-- How a call is made. -/
def method : BackendCall → Method
  | .compile _ => .post
  | .select _ => .post
  | _ => .get

/-- What is sent along with a call. -/
def body : BackendCall → RequestBody
  | .compile source => source.body
  | .select request => .json request.toJson
  | _ => .empty

/-- Characters that a host may have in a URL and not in a request. -/
def isRefusedInHost (c : Char) : Bool :=
  c == '"' || c.toNat == 0x60 || c.toNat == 0x7B || c.toNat == 0x7D

/-- The longest URL that can be asked for, in characters. -/
def longestUrl : Nat := 65534

/-- The schemes that the client speaks: plain HTTP, and HTTP over TLS. -/
def spokenSchemes : List String := ["http", "https"]

/-- A URL can be asked for if its scheme is one of those that the client speaks, its host can be
written in a request, and it is not too long.  Which of the schemes get through to a backend is a
matter of the link, not of the URL. -/
def isSendable (url : Url) : Bool :=
  spokenSchemes.contains url.scheme &&
    url.host.all (fun host => !host.text.toList.any isRefusedInHost) &&
    { url with user := "", password := "" : Url }.text.length ≤ longestUrl

/-- The request for a call, or the reason for which none can be sent. -/
def request (api : Api) (call : BackendCall) : Except BackendError Request := do
  let url ← api.urlOf call
  if isSendable url then return { method := method call, url := url.sent, body := body call }
  else throw (.unreachable "the url cannot be asked for")

/-- What a refusal says about its reason; a body that broke off says nothing. -/
def detail? (body : Option Bytes) : Option String :=
  Refusal.detail? (Utf8.decodeLossy (body.getD []))

/-- What a reply to a call means. -/
def read (api : Api) (call : BackendCall) : Reply → Except BackendError call.Answer
  | .lost => .error (.unreachable "no response")
  | .response status body =>
    if Reply.isSuccess status then
      match body with
      | none => .error (.undecodable "" "the body broke off")
      | some bytes =>
        match call.decode? bytes with
        | some answer => .ok answer
        | none => .error (.undecodable (api.place call) "not the value that was asked for")
    else .error (call.refusal (api.place call) status (detail? body))

/-- What a reply means, to whichever call it is the reply. -/
def answers (api : Api) (reply : Reply) : Answers :=
  fun call => api.read call reply

end Api

end SelectorTutorial
