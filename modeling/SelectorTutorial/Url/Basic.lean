import SelectorTutorial.Url.Address

/-! URLs: their parts, their text, and what can be done to their path. -/

namespace SelectorTutorial

/-- The host of a URL. -/
inductive Url.Host where
  /-- A name, which is empty where a URL has room for a host and none in it. -/
  | name (text : String)
  /-- An address of four bytes. -/
  | ipv4 (address : Nat)
  /-- An address of eight pieces. -/
  | ipv6 (pieces : List Nat)
deriving DecidableEq, Repr

/-- The path of a URL. -/
inductive Url.Path where
  /-- A path that has no parts and to which nothing can be relative. -/
  | flat (text : String)
  /-- The parts between slashes, each after a slash of its own. -/
  | segments (list : List String)
deriving DecidableEq, Repr

/-- A URL in its parts, each of them encoded as it is written. -/
structure Url where
  /-- The scheme, in small letters. -/
  scheme : String
  /-- The user name, or nothing. -/
  user : String := ""
  /-- The password, or nothing. -/
  password : String := ""
  /-- The host, if there is room for one. -/
  host : Option Url.Host := none
  /-- The port, unless it is the one that the scheme has anyway. -/
  port : Option Nat := none
  /-- The path. -/
  path : Url.Path
  /-- The query, without its question mark. -/
  query : Option String := none
  /-- The fragment, without its sharp sign. -/
  fragment : Option String := none
deriving DecidableEq, Repr

namespace Url

/-- Why a text is not a URL. -/
inductive Fault where
  | emptyHost
  | invalidPort
  | invalidIpv4
  | invalidIpv6
  | invalidDomain
  | invalidHostCharacter
  | relativeWithoutBase
  | relativeToFlatBase
deriving DecidableEq, Repr

/-- The wording of a fault. -/
def Fault.message : Fault → String
  | emptyHost => "empty host"
  | invalidPort => "invalid port number"
  | invalidIpv4 => "invalid IPv4 address"
  | invalidIpv6 => "invalid IPv6 address"
  | invalidDomain => "invalid international domain name"
  | invalidHostCharacter => "invalid domain character"
  | relativeWithoutBase => "relative URL without a base"
  | relativeToFlatBase => "relative URL with a cannot-be-a-base base"

/-- The schemes whose URLs always have a host and a path, or in the case of files a path. -/
def isSpecial (scheme : String) : Bool :=
  scheme == "http" || scheme == "https" || scheme == "ws" || scheme == "wss" ||
    scheme == "ftp" || scheme == "file"

/-- The port that a scheme has anyway. -/
def defaultPort? : String → Option Nat
  | "http" => some 80
  | "ws" => some 80
  | "https" => some 443
  | "wss" => some 443
  | "ftp" => some 21
  | _ => none

/-- The text of a host. -/
def Host.text : Host → String
  | name s => s
  | ipv4 address => ipv4Text address
  | ipv6 pieces => "[" ++ ipv6Text pieces ++ "]"

/-- The text of a path: a slash before each of its segments. -/
def Path.text : Path → String
  | flat s => s
  | segments list => String.join (list.map ("/" ++ ·))

/-- The segments of a path; a flat one has none. -/
def Path.parts : Path → List String
  | flat _ => []
  | segments list => list

/-- The user name and the password, if there is either, as they stand before the host. -/
def userText (url : Url) : String :=
  let password := if url.password = "" then "" else ":" ++ url.password
  if url.user = "" ∧ url.password = "" then "" else url.user ++ password ++ "@"

/-- What stands between the scheme and the path; a path that looks like a host is kept from it. -/
def authorityText (url : Url) : String :=
  match url.host, url.path with
  | some host, _ =>
    let port := match url.port with
      | some n => ":" ++ toString n
      | none => ""
    "//" ++ url.userText ++ host.text ++ port
  | none, .segments ("" :: _ :: _) => "/."
  | none, _ => ""

/-- A part with its mark before it, or nothing. -/
def markedText (mark : String) : Option String → String
  | some s => mark ++ s
  | none => ""

/-- The text of a URL. -/
def text (url : Url) : String :=
  url.scheme ++ ":" ++ url.authorityText ++ url.path.text ++ markedText "?" url.query ++
    markedText "#" url.fragment

/-- A segment is a dot if it reads so after its percent signs are resolved. -/
def isDot (segment : List Char) : Bool :=
  let s := Text.lowerAscii (.ofList segment)
  s == "." || s == "%2e"

/-- A segment is a double dot if it reads so after its percent signs are resolved. -/
def isDoubleDot (segment : List Char) : Bool :=
  let s := Text.lowerAscii (.ofList segment)
  s == ".." || s == "%2e%2e" || s == "%2e." || s == ".%2e"

/-- A letter with a colon or a bar after it names a drive. -/
def isDrive (segment : List Char) : Bool :=
  match segment with
  | [letter, mark] => letter.isAlpha && (mark == ':' || mark == '|')
  | _ => false

/-- The path above; a drive has none above it. -/
def parent (segments : List String) : List String :=
  match segments.getLast? with
  | some last => if isDrive last.toList then segments else segments.dropLast
  | none => []

/-- A drive is kept with a colon. -/
def driveText (segment : List Char) : String :=
  .ofList (segment.take 1 ++ [':'])

/-- A path with one more segment.  A drive that comes first in the path of a file gets its colon. -/
def addSegment (scheme : String) (segments : List String) (segment : List Char) : List String :=
  if scheme = "file" ∧ segments.isEmpty ∧ isDrive segment then [driveText segment]
  else segments ++ [.ofList segment]

/--
Going from a path to the segment named next.  A dot stays, a double dot goes up, and either of them
leaves a path with a slash at its end when nothing follows.
-/
def descend (scheme : String) (isLast : Bool) (segments : List String) (segment : List Char) :
    List String :=
  if isDoubleDot segment then parent segments ++ if isLast then [""] else []
  else if isDot segment then segments ++ if isLast then [""] else []
  else addSegment scheme segments segment

/-- Going from a path along some segments. -/
def descendAll (scheme : String) (segments : List String) : List (List Char) → List String
  | [] => segments
  | [last] => descend scheme true segments last
  | next :: rest => descendAll scheme (descend scheme false segments next) rest

/-- Tabs and line breaks are not part of any URL. -/
def isDropped (c : Char) : Bool :=
  c == '\t' || c == '\n' || c == '\r'

/-- A path with no more than its leading slash is a path without segments to which some can be
added. -/
def withoutRoot (segments : List String) : List String :=
  if segments = [""] then [] else segments

/--
A path with a segment put at its end, encoded so that it stays one segment.  The texts for a dot and
a double dot are passed over.
-/
def pushSegment (scheme : String) (segments : List String) (segment : String) : List String :=
  if segment = "." ∨ segment = ".." then segments
  else
    let cs := segment.toList.filter fun c => !isDropped c
    let encoded := percentEncode (encodedInSegment (isSpecial scheme)) cs
    descend scheme true (withoutRoot segments) encoded

/-- A path without the empty segment at its end, unless that is all it has. -/
def popIfEmpty (segments : List String) : List String :=
  if 1 < segments.length ∧ segments.getLast? = some "" then segments.dropLast else segments

/-- A URL with some segments put at the end of its path, unless its path cannot have any. -/
def extend? (url : Url) (segments : List String) : Option Url :=
  match url.path with
  | .flat _ => none
  | .segments list =>
    some { url with path := .segments (segments.foldl (pushSegment url.scheme) (popIfEmpty list)) }

/-- A URL as it is asked for: neither its fragment nor its user is sent. -/
def sent (url : Url) : Url :=
  { url with user := "", password := "", fragment := none }

end Url

end SelectorTutorial
