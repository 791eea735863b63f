import SelectorTutorial.Backend.Link
import SelectorTutorial.Session.Basic

/-! A session over a backend: each call goes as far as there are replies to its requests. -/

namespace SelectorTutorial

namespace Session

/-- A session after some steps of a call. -/
structure Exchange where
  /-- The session. -/
  session : Session
  /-- The requests that were sent meanwhile. -/
  requests : List Request
  /-- How far the call has come. -/
  progress : Progress Waiting Result

/--
A call that waits for something asks the backend for it.  If that fails at once it goes on with the
error, else with the next reply, and without one it is left waiting.
-/
def settle (now : Timestamp) (api : Api) (link : Link) (number : Nat) :
    (most : Nat) → List Reply → Step → Exchange
  | most + 1, replies, (session, .waiting on) =>
    match api.send link on.call, replies with
    | .error error, _ =>
      settle now api link number most replies (session.answer now (.failure error) number on)
    | .ok request, [] => { session, requests := [request], progress := .waiting on }
    | .ok request, reply :: replies =>
      let rest := settle now api link number most replies
        (session.answer now (api.answers reply) number on)
      { rest with requests := request :: rest.requests }
  | _, _, (session, progress) => { session, requests := [], progress }

/-- Starts a call and goes on with it as far as the replies reach. -/
def converse (now : Timestamp) (api : Api) (link : Link) (s : Session) (call : Call)
    (replies : List Reply) : Exchange :=
  settle now api link s.calls.length mostWaits replies (s.start now call)

/-- Goes on with a call that waits, as far as the replies reach. -/
def deliver (now : Timestamp) (api : Api) (link : Link) (s : Session) (number : Nat)
    (on : Waiting) : List Reply → Exchange
  | [] => { session := s, requests := [], progress := .waiting on }
  | reply :: replies =>
    settle now api link number mostWaits replies
      (s.answer now (api.answers reply) number on)

end Session

end SelectorTutorial
