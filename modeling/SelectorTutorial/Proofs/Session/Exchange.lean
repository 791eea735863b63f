import SelectorTutorial.Proofs.Session.Settling
import SelectorTutorial.Session.Exchange

/-! How far a call comes over a backend that gives some replies and then no more. -/

namespace SelectorTutorial

namespace Session

/-- A call goes on from a step as far as the replies reach.  What it asks the backend for is sent if
that can be done, and each reply lets it take one more step. -/
inductive Reaches (now : Timestamp) (api : Api) (link : Link) (number : Nat) :
    Step → List Reply → Exchange → Prop
  /-- The call has ended. -/
  | ended {s : Session} {result : Result} {replies : List Reply} :
      Reaches now api link number (s, .finished result) replies
        { session := s, requests := [], progress := .finished result }
  /-- The call waits for a reply that does not come. -/
  | left {s : Session} {on : Waiting} {request : Request}
      (sent : api.send link on.call = .ok request) :
      Reaches now api link number (s, .waiting on) []
        { session := s, requests := [request], progress := .waiting on }
  /-- No request can be sent, which the call is told at once. -/
  | unsent {s : Session} {on : Waiting} {error : BackendError} {replies : List Reply}
      {x : Exchange} (refused : api.send link on.call = .error error)
      (rest : Reaches now api link number (s.answer now (.failure error) number on) replies x) :
      Reaches now api link number (s, .waiting on) replies x
  /-- The request is replied to. -/
  | replied {s : Session} {on : Waiting} {request : Request} {reply : Reply} {replies : List Reply}
      {x : Exchange} (sent : api.send link on.call = .ok request)
      (rest : Reaches now api link number (s.answer now (api.answers reply) number on) replies x) :
      Reaches now api link number (s, .waiting on) (reply :: replies)
        { x with requests := request :: x.requests }

variable {now : Timestamp} {api : Api} {link : Link} {number : Nat}

/-- A call that may wait often enough goes on as far as the replies reach. -/
theorem reaches_settle {most : Nat} {step : Step} {replies : List Reply}
    (enough : ∀ on, step.2 = .waiting on → on.left ≤ most) :
    Reaches now api link number step replies (settle now api link number most replies step) := by
  -- The induction is on how often the call may wait; each answer leaves it with fewer waits.
  induction most generalizing step replies with
  | zero =>
    obtain ⟨s, progress⟩ := step
    cases progress with
    | waiting on =>
      have none : on.left ≤ 0 := enough on rfl
      have := on.left_pos
      omega
    | finished result => exact .ended
  | succ most ih =>
    obtain ⟨s, progress⟩ := step
    cases progress with
    | finished result => exact .ended
    | waiting on =>
      have allowed : on.left ≤ most + 1 := enough on rfl
      have further (answers : Answers) (next : Waiting)
          (waits : (s.answer now answers number on).2 = .waiting next) : next.left ≤ most := by
        have fewer : next.left < on.left := left_lt_of_goOn waits
        omega
      unfold settle
      split
      · next error refused => exact .unsent refused (ih (further _))
      · next request sent => exact .left sent
      · next request reply replies sent => exact .replied sent (ih (further _))

/-- A call that is started goes on as far as the replies reach. -/
theorem reaches_converse (s : Session) (call : Call) (replies : List Reply) :
    Reaches now api link s.calls.length (s.start now call) replies
      (s.converse now api link call replies) :=
  -- No call waits more often than the exchange goes on with it.
  reaches_settle fun on _ => on.left_le_mostWaits

end Session

end SelectorTutorial
