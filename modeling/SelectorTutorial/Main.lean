import SelectorTutorial.Backend.Wire
import SelectorTutorial.CommandLine.Commands
import Std.Async.DNS
import Std.Async.TCP
import Std.Async.Timer
import Std.Time.DateTime.Timestamp

/-! The command line itself: files, environment, clock, terminal and network. -/

namespace SelectorTutorial

namespace Terminal

open Std.Async

/-- The port of a request that names none. -/
def usualPort : Nat := 80

/-- The name or number by which a host is looked up. -/
def lookupName : Url.Host → String
  | .ipv6 pieces => Url.ipv6Text pieces
  | host => host.text

/-- All bytes that arrive until the connection is closed. -/
partial def receiveAll (socket : TCP.Socket.Client) (sofar : ByteArray) : Async ByteArray := do
  match ← socket.recv? 65536 with
  | some bytes => receiveAll socket (sofar ++ bytes)
  | none => return sofar

/-- Sends a request over a connection of its own, and takes what comes back. -/
def converse (request : Request) : Async ByteArray := do
  let name := ((request.url.host.map lookupName).getD "")
  let port : UInt16 := .ofNat (request.url.port.getD usualPort)
  let addresses ← DNS.getAddrInfo name (toString port)
  let some address := addresses[0]? | throw (.userError "no such host")
  let socket ← TCP.Socket.Client.mk
  socket.connect (match address with
    | .v4 addr => .v4 ⟨addr, port⟩
    | .v6 addr => .v6 ⟨addr, port⟩)
  socket.send ⟨(Wire.ofRequest request).toArray⟩
  receiveAll socket .empty

/-- The reply to a request, which is lost when it takes too long. -/
def replyTo (settings : Settings) (request : Request) : IO Reply := do
  let late : Async (Option ByteArray) := do
    sleep (.ofNat (1000 * settings.effectiveTimeout))
    return none
  try
    match ← (Async.race (some <$> converse request) late).block with
    | some bytes => return Wire.toReply bytes.toList
    | none => return .lost
  catch _ => return .lost

/-- The time by the clock. -/
def now : IO Timestamp := do
  return ⟨(← Std.Time.Timestamp.now).toSecondsSinceUnixEpoch.val⟩

/-- Runs a program.  Requests go over plain HTTP only, so that a backend behind TLS is out of
reach. -/
def perform (settings : Settings) (api : Api) : Script Unit → IO UInt32
  | .done () => return 0
  | .fail message => do
    IO.eprintln ("Error: " ++ message)
    return 1
  | .print text next => do
    IO.println text
    perform settings api next
  | .ask call next => do
    match api.send .up call with
    | .error error => perform settings api (next (← now) (.failure error))
    | .ok request =>
      let reply ← replyTo settings request
      perform settings api (next (← now) (api.answers reply))

/-- The content of a file, if it can be read. -/
def contentOf (path : String) : IO (Option Bytes) := do
  try return some (← IO.FS.readBinFile path).toList
  catch _ => return none

/-- A look-up in pairs. -/
def lookUp {α : Type} (pairs : List (String × α)) (name : String) : Option α :=
  (pairs.find? (·.1 == name)).map (·.2)

/-- The values of some names, where there are any. -/
def gather {α : Type} (read : String → IO (Option α)) (names : List String) :
    IO (List (String × α)) := do
  let pairs ← names.mapM fun name => return (name, ← read name)
  return pairs.filterMap fun (name, value) => value.map (name, ·)

end Terminal

end SelectorTutorial

open SelectorTutorial in
/-- Does what the command line says. -/
def main (args : List String) : IO UInt32 := do
  let files ← Terminal.gather Terminal.contentOf (filesNamed args)
  let env ← Terminal.gather (fun name => IO.getEnv name) Settings.variableNames
  match launch (Terminal.lookUp files) (Terminal.lookUp env) args with
  | .help =>
    Arguments.help.forM fun line => IO.println line
    return 0
  | .misuse =>
    Arguments.help.forM fun line => IO.eprintln line
    return 2
  | .failed message =>
    IO.eprintln ("Error: " ++ message)
    return 1
  | .ready settings api script => Terminal.perform settings api script
