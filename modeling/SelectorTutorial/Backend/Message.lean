import SelectorTutorial.Backend.Bodies
import SelectorTutorial.Url.Basic

/-! What passes between the client and the backend: one request out, and at most one reply back. -/

namespace SelectorTutorial

/-- What a request wants of its URL. -/
inductive Method where
  /-- To be sent what is there. -/
  | get
  /-- To have a body worked on. -/
  | post
deriving DecidableEq, Repr

/-- The word for a method. -/
def Method.name : Method → String
  | get => "GET"
  | post => "POST"

/-- A request to the backend. -/
structure Request where
  /-- What it wants. -/
  method : Method
  /-- Where it goes. -/
  url : Url
  /-- What it carries. -/
  body : RequestBody
deriving Repr

/-- What came back for a request.  Where the backend redirects, this is what came back at the end of
the redirects that were followed. -/
inductive Reply where
  /-- Nothing. -/
  | lost
  /-- A status and a body, or no body if the connection broke before the end of it. -/
  | response (status : Nat) (body : Option Bytes)
deriving DecidableEq, Repr

namespace Reply

/-- Replies with one of these statuses have an empty body, whatever follows them. -/
def isBodiless (status : Nat) : Bool :=
  status == 204 || status == 304

/-- The reply with a status whose body was read up to its end or not. -/
def ofBody (status : Nat) (body : Bytes) (isCut : Bool) : Reply :=
  if isBodiless status then response status (some [])
  else if isCut then response status none
  else response status (some body)

/-- A status from 200 up to 299 says that the request was met. -/
def isSuccess (status : Nat) : Bool :=
  200 ≤ status && status < 300

end Reply

end SelectorTutorial
