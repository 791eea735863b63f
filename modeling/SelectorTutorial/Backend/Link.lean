import SelectorTutorial.Backend.Api

/-! The way to the backend, which may be open or not. -/

namespace SelectorTutorial

/-- Which requests get through to the backend. -/
inductive Link where
  /-- None does. -/
  | down
  /-- Those over plain HTTP do, but none over TLS. -/
  | up
  /-- Those over plain HTTP do, and those over TLS as well. -/
  | secured
deriving DecidableEq, Repr

/-- Whether a request for a URL gets through. -/
def Link.carries : Link → Url → Bool
  | .down, _ => false
  | .up, url => url.scheme == "http"
  | .secured, _ => true

/-- The request that reaches the backend for a call, or the error when none does. -/
def Api.send (api : Api) (link : Link) (call : BackendCall) : Except BackendError Request :=
  match api.request call with
  | .error error => .error error
  | .ok request =>
    if link.carries request.url then .ok request
    else .error (.unreachable "the backend cannot be reached")

end SelectorTutorial
