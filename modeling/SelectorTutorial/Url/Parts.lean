import SelectorTutorial.Url.Basic
import SelectorTutorial.Url.Domain

/-! Reading the parts of a URL: scheme, user, host, port, path, query and fragment. -/

namespace SelectorTutorial

namespace Url

/-- The end of a host and of all that stands before the path. -/
def endsAuthority (special : Bool) (c : Char) : Bool :=
  c == '/' || c == '?' || c == '#' || (special && c == '\\')

/-- Either slash. -/
def isSlash (c : Char) : Bool :=
  c == '/' || c == '\\'

/-- A scheme and the colon after it: a letter, then letters, digits, plus, minus and dot. -/
def scheme? (cs : List Char) : Option (String × List Char) :=
  let inScheme (c : Char) : Bool := c.isAlphanum || c == '+' || c == '-' || c == '.'
  match cs, cs.dropWhile inScheme with
  | first :: _, ':' :: rest =>
    if first.isAlpha then
      some (Text.lowerAscii (.ofList (cs.takeWhile inScheme)), rest)
    else none
  | _, _ => none

/-- The host of a special URL: an address, or a name in its one form. -/
def specialHost (cs : List Char) : Except Fault Host :=
  match cs with
  | '[' :: inner =>
    if inner.getLast? ≠ some ']' then .error .invalidIpv6
    else match ipv6? inner.dropLast with
      | some pieces => .ok (.ipv6 pieces)
      | none => .error .invalidIpv6
  | _ =>
    match domain? (Utf8.decodeLossy (percentDecode cs)).toList with
    | none => .error .invalidDomain
    | some [] => .error .emptyHost
    | some name =>
      if endsInNumber name then
        match ipv4? name with
        | some address => .ok (.ipv4 address)
        | none => .error .invalidIpv4
      else .ok (.name (.ofList name))

/-- Characters that no host may hold, whatever the scheme. -/
def forbiddenInHost (c : Char) : Bool :=
  c.toNat == 0 || c == ' ' || c == '#' || c == '/' || c == ':' || c == '<' || c == '>' ||
    c == '?' || c == '@' || c == '[' || c == '\\' || c == ']' || c == '^' || c == '|'

/-- The host of any other URL is taken as it is written. -/
def plainHost (cs : List Char) : Except Fault Host :=
  match cs with
  | '[' :: _ => specialHost cs
  | _ =>
    if cs.any forbiddenInHost then .error .invalidHostCharacter
    else .ok (.name (.ofList (percentEncode encodedAlways cs)))

/-- The host at the head of some characters ends at a colon that is not between brackets. -/
def spanHost : (inBrackets : Bool) → List Char → List Char × List Char
  | _, [] => ([], [])
  | inBrackets, c :: cs =>
    if c = ':' ∧ !inBrackets then ([], c :: cs)
    else
      let inside := if c = '[' then true else if c = ']' then false else inBrackets
      let (host, rest) := spanHost inside cs
      (c :: host, rest)

/-- A port after its colon, up to the end; the port that the scheme has anyway counts for none. -/
def readPort (scheme : String) (cs : List Char) : Except Fault (Option Nat) :=
  match Digits.all? 10 cs with
  | none => .error .invalidPort
  | some digits =>
    let n := Digits.toNat 10 digits
    if 65535 < n then .error .invalidPort
    else if digits.isEmpty ∨ defaultPort? scheme = some n then .ok none
    else .ok (some n)

/-- The user and the password; an empty one counts for none. -/
def credentials (cs : List Char) : String × String :=
  let name := cs.takeWhile (· != ':')
  let password := (cs.dropWhile (· != ':')).drop 1
  (.ofList (percentEncode encodedInUser name), .ofList (percentEncode encodedInUser password))

/-- The text before and after the last at-sign, if there is one. -/
def atLastAt? (cs : List Char) : Option (List Char × List Char) :=
  if cs.contains '@' then
    let after := (cs.reverse.takeWhile (· != '@')).reverse
    some (cs.take (cs.length - after.length - 1), after)
  else none

/-- A query, encoded. -/
def encodedQuery (special : Bool) (cs : List Char) : String :=
  .ofList (percentEncode (encodedInQuery special) cs)

/-- A fragment, encoded. -/
def encodedFragment (cs : List Char) : String :=
  .ofList (percentEncode encodedInFragment cs)

/-- A URL with the query and the fragment that some characters hold after its path. -/
def withTail (url : Url) (cs : List Char) : Url :=
  let (query, rest) := match cs with
    | '?' :: after =>
      (some (encodedQuery (isSpecial url.scheme) (after.takeWhile (· != '#'))),
        after.dropWhile (· != '#'))
    | _ => (none, cs)
  let fragment := match rest with
    | '#' :: after => some (encodedFragment after)
    | _ => none
  { url with query, fragment }

/-- The segments that some characters hold, up to a query or a fragment, each encoded. -/
def pathPieces (special : Bool) (cs : List Char) : List (List Char) :=
  let path := cs.takeWhile fun c => c != '?' && c != '#'
  (Text.pieces (fun c => c == '/' || (special && c == '\\')) path).map (percentEncode encodedInPath)

/-- What follows a path. -/
def afterPath (cs : List Char) : List Char :=
  cs.dropWhile fun c => c != '?' && c != '#'

/-- A URL whose path goes on from some segments along the ones read, with what follows them. -/
def withPath (url : Url) (start : List String) (cs : List Char) : Url :=
  let segments := descendAll url.scheme start (pathPieces (isSpecial url.scheme) cs)
  { url with path := .segments segments }.withTail (afterPath cs)

/-- The path after a host starts with a slash, which a special URL has even where none is
written. -/
def withRootPath (url : Url) (cs : List Char) : Url :=
  let special := isSpecial url.scheme
  match cs with
  | [] => if special then { url with path := .segments [""] } else { url with path := .segments [] }
  | c :: rest =>
    if c = '/' ∨ (special ∧ c = '\\') then url.withPath [] rest
    else if special ∨ (c ≠ '?' ∧ c ≠ '#') then url.withPath [] cs
    else { url with path := .segments [] }.withTail cs

end Url

end SelectorTutorial
