import SelectorTutorial.Backend.Message
import SelectorTutorial.Json.Writer
import SelectorTutorial.Number.Decimal

/-! Requests and replies as the bytes of HTTP/1.1, over a connection that is used for one of
each. -/

namespace SelectorTutorial

namespace Wire

/-- The end of a line. -/
def lineEnd : String := "\r\n"

/-- Whether some bytes occur among others. -/
def occurs (part : Bytes) : Bytes → Bool
  | [] => part.isEmpty
  | b :: bs => part.isPrefixOf (b :: bs) || occurs part bs

/-- The mark between the parts of a form with some number. -/
def boundary (n : Nat) : String :=
  s!"----form-part-{n}"

/-- The first mark that does not occur in what a form holds. -/
def freeBoundary (content : Bytes) : String :=
  let free (n : Nat) : Bool := !occurs (Utf8.encode (boundary n)) content
  boundary (((List.range (content.length + 1)).find? free).getD 0)

/-- A name of a file as it can stand between quotes. -/
def quotedName (name : String) : String :=
  String.join (name.toList.map fun c =>
    if c = '"' then "%22" else if c = '\n' then "%0A" else if c = '\r' then "%0D" else c.toString)

/-- A form whose one part is a file, between two marks. -/
def form (mark part : String) (file : Upload) : Bytes :=
  Utf8.encode ("--" ++ mark ++ lineEnd ++
    "content-disposition: form-data; name=\"" ++ part ++ "\"; filename=\"" ++
    quotedName file.filename ++ "\"" ++ lineEnd ++ lineEnd) ++
  file.content ++
  Utf8.encode (lineEnd ++ "--" ++ mark ++ "--" ++ lineEnd)

/-- What a body is said to be, and its bytes. -/
def content : RequestBody → Option (String × Bytes)
  | .empty => none
  | .json value => some ("application/json", Utf8.encode value.toText)
  | .file part upload =>
    let mark := freeBoundary upload.content
    some ("multipart/form-data; boundary=" ++ mark, form mark part upload)

/-- The host of a URL and its port, if that is not the usual one. -/
def authority (url : Url) : String :=
  ((url.host.map Url.Host.text).getD "") ++ ((url.port.map fun n => ":" ++ toString n).getD "")

/-- The head of a request, with the lines that tell of its body. -/
def head (r : Request) (about : List String) : String :=
  String.join ([
    r.method.name ++ " " ++ r.url.path.text ++ Url.markedText "?" r.url.query ++ " HTTP/1.1",
    "host: " ++ authority r.url,
    "accept: */*",
    "connection: close"] ++ about ++ [""] |>.map (· ++ lineEnd))

/-- The bytes of a request. -/
def ofRequest (r : Request) : Bytes :=
  match content r.body with
  | none => Utf8.encode (head r [])
  | some (type, bytes) =>
    Utf8.encode (head r ["content-type: " ++ type, s!"content-length: {bytes.length}"]) ++ bytes

/-- A line and what follows it, if it has an end. -/
def line? : Bytes → Option (Bytes × Bytes)
  | [] => none
  | 0x0D :: 0x0A :: rest => some ([], rest)
  | b :: rest => (line? rest).map fun (line, rest) => (b :: line, rest)

/-- The lines up to an empty one, and what follows that; `bound` is at least their number. -/
def lines? : (bound : Nat) → Bytes → Option (List String × Bytes)
  | 0, _ => none
  | bound + 1, bytes => do
    let (line, rest) ← line? bytes
    if line.isEmpty then return ([], rest)
    let (lines, rest) ← lines? bound rest
    return (Utf8.decodeLossy line :: lines, rest)

/-- The status in the first line of a reply. -/
def status? (line : String) : Option Nat :=
  match Text.pieces (· == ' ') line.toList with
  | _ :: digits :: _ =>
    match Decimal.spanDigits digits with
    | ([a, b, c], []) => some (Digits.toNat 10 [a, b, c])
    | _ => none
  | _ => none

/-- What the lines of a head say under a name. -/
def field? (name : String) (lines : List String) : Option String :=
  lines.findSome? fun line =>
    let cs := line.toList
    let before := cs.takeWhile (· != ':')
    if Text.sameIgnoringCase (.ofList before) name then
      some (Text.trim (.ofList (cs.drop (before.length + 1))))
    else none

/-- The number at the head of a line in hexadecimal digits. -/
def chunkSize? (line : Bytes) : Option Nat :=
  let digits := (Utf8.decodeLossy line).toList.takeWhile fun c => (Digits.value? c).isSome
  if digits.isEmpty then none else (Digits.all? 16 digits).map (Digits.toNat 16)

/-- A body in chunks, and whether it was cut; `bound` is at least the number of chunks. -/
def chunks : (bound : Nat) → Bytes → Bytes × Bool
  | 0, _ => ([], true)
  | bound + 1, bytes =>
    match line? bytes with
    | none => ([], true)
    | some (line, rest) =>
      match chunkSize? line with
      | none => ([], true)
      | some 0 => ([], false)
      | some size =>
        if rest.length < size + 2 then (rest.take size, true)
        else
          let (others, isCut) := chunks bound (rest.drop (size + 2))
          (rest.take size ++ others, isCut)

/-- The body that follows a head, and whether it was cut. -/
def body (lines : List String) (bytes : Bytes) : Bytes × Bool :=
  if (field? "transfer-encoding" lines).any (Text.sameIgnoringCase · "chunked") then
    chunks (bytes.length + 1) bytes
  else match (field? "content-length" lines).map fun s => Decimal.spanDigits s.toList with
    | some (d :: ds, []) =>
      let length := Digits.toNat 10 (d :: ds)
      (bytes.take length, bytes.length < length)
    | _ => (bytes, false)

/-- The reply that some bytes are, up to the end of the connection; replies on the way do not
count. -/
def replyWithin : (bound : Nat) → Bytes → Reply
  | 0, _ => .lost
  | bound + 1, bytes =>
    match lines? (bytes.length + 1) bytes with
    | some (first :: lines, rest) =>
      match status? first with
      | none => .lost
      | some status =>
        if status < 200 then replyWithin bound rest
        else
          let (body, isCut) := body lines rest
          .ofBody status body isCut
    | _ => .lost

/-- The reply that some bytes are. -/
def toReply (bytes : Bytes) : Reply :=
  replyWithin (bytes.length + 1) bytes

end Wire

end SelectorTutorial
