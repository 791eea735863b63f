import SelectorTutorial.Backend.Link
import SelectorTutorial.Session.Basic
import SelectorTutorial.Viewport.Frame

/-!
Programs that print lines and ask the backend for things, as trees: what a program does next depends
on the answers so far and on nothing else.
-/

namespace SelectorTutorial

/-- A program that ends with a value or with a message that says why it failed. -/
inductive Script (α : Type) where
  /-- The end. -/
  | done (value : α)
  /-- The end, for want of a way to go on. -/
  | fail (message : String)
  /-- Something is printed, and a line ends after it. -/
  | print (text : String) (next : Script α)
  /-- The backend is asked for something, and answers at some time. -/
  | ask (call : BackendCall) (next : Timestamp → Answers → Script α)

namespace Script

variable {α β : Type}

/-- A program after the end of another one. -/
def bind : Script α → (α → Script β) → Script β
  | done value, next => next value
  | fail message, _ => fail message
  | print text rest, next => print text (rest.bind next)
  | ask call rest, next => ask call fun time answers => (rest time answers).bind next

instance : Monad Script where
  pure := done
  bind := bind

/-- Prints something. -/
def say (text : String) : Script Unit :=
  print text (done ())

/-- Prints some things one after another. -/
def sayAll (texts : List String) : Script Unit :=
  texts.forM say

/-- Goes on with a call of a session until it ends.  None waits more often than `most` says. -/
def settle : (most : Nat) → Session.Step → Script (Session × Session.Result)
  | _, (s, .finished result) => done (s, result)
  | 0, (_, .waiting _) => fail "the call does not end"
  | most + 1, (s, .waiting on) =>
    ask on.call fun time answers => settle most (s.goOn time answers on)

/-- Makes a call of a session. -/
def perform (s : Session) (call : Session.Call) : Script (Session × Session.Result) :=
  settle Session.mostWaits (s.begin ⟨0⟩ call)

/-- Fetches the meshes of some layers, each for itself. -/
def fetchAll : List Layer → Script Frame
  | [] => done {}
  | layer :: rest =>
    ask (.asset layer.url) fun _ answers => do
      let mesh := Mesh.ofFetched layer.url (answers (.asset layer.url))
      let others ← fetchAll rest
      return { layers := { layer, state := .ofMesh mesh } :: others.layers }

end Script

/-- What the backend replies to a request, which may depend on the requests before it. -/
abbrev Backend := (earlier : List Request) → Request → Reply

/-- What a program did. -/
structure Transcript (α : Type) where
  /-- What it printed. -/
  printed : List String
  /-- The requests that it sent. -/
  requests : List Request
  /-- The value that it ended with, or the message. -/
  ending : Except String α

namespace Script

variable {α : Type}

/-- Runs a program against a backend. -/
def run (api : Api) (link : Link) (backend : Backend) (now : Timestamp) :
    (earlier : List Request) → Script α → Transcript α
  | _, done value => { printed := [], requests := [], ending := .ok value }
  | _, fail message => { printed := [], requests := [], ending := .error message }
  | earlier, print text next =>
    let rest := run api link backend now earlier next
    { rest with printed := text :: rest.printed }
  | earlier, ask call next =>
    match api.send link call with
    | .error error => run api link backend now earlier (next now (.failure error))
    | .ok request =>
      let reply := backend earlier request
      let rest := run api link backend now (earlier ++ [request]) (next now (api.answers reply))
      { rest with requests := request :: rest.requests }

end Script

end SelectorTutorial
