import SelectorTutorial.Text.Utf8
import SelectorTutorial.Number.Digits

/-! Percent-encoding: a character outside the plain ones of a URL part is written byte by byte in
hexadecimal. -/

namespace SelectorTutorial

namespace Url

/-- Controls and everything beyond ASCII are encoded wherever they stand. -/
def encodedAlways (c : Char) : Bool :=
  c.toNat < 0x20 || 0x7E < c.toNat

/-- What is encoded in a fragment. -/
def encodedInFragment (c : Char) : Bool :=
  encodedAlways c || c == ' ' || c == '"' || c == '<' || c == '>' || c.toNat == 0x60

/-- What is encoded in a query; a quote only when the scheme is special. -/
def encodedInQuery (special : Bool) (c : Char) : Bool :=
  encodedAlways c || c == ' ' || c == '"' || c == '#' || c == '<' || c == '>' ||
    (special && c == '\'')

/-- What is encoded in a path. -/
def encodedInPath (c : Char) : Bool :=
  encodedInFragment c || c == '#' || c == '?' || c == '\x7b' || c == '\x7d'

/--
What is encoded in a path segment that is put in as a whole: besides the above, what would end the
segment or be taken for an encoded character.
-/
def encodedInSegment (special : Bool) (c : Char) : Bool :=
  encodedInPath c || c == '/' || c == '%' || (special && c == '\\')

/-- What is encoded in a user name or password. -/
def encodedInUser (c : Char) : Bool :=
  encodedInPath c || c == '/' || c == ':' || c == ';' || c == '=' || c == '@' || c == '[' ||
    c == '\\' || c == ']' || c == '^' || c == '|'

/-- A hexadecimal digit as a capital. -/
def hexCapital (n : Nat) : Char :=
  .ofNat (if n < 10 then '0'.toNat + n else 'A'.toNat + (n - 10))

/-- A byte as a percent sign and two digits. -/
def encodeByte (b : UInt8) : List Char :=
  ['%', hexCapital (b.toNat / 16), hexCapital (b.toNat % 16)]

/-- The characters of a URL part, each encoded if `encoded` says so. -/
def percentEncode (encoded : Char → Bool) (cs : List Char) : List Char :=
  cs.flatMap fun c => if encoded c then (String.utf8EncodeChar c).flatMap encodeByte else [c]

/-- The bytes that a URL part denotes; a percent sign without two digits after it stands for
itself. -/
def percentDecode : List Char → Bytes
  | '%' :: a :: b :: rest =>
    match Digits.value? a, Digits.value? b with
    | some x, some y => .ofNat (16 * x + y) :: percentDecode rest
    | _, _ => '%'.toUInt8 :: percentDecode (a :: b :: rest)
  | c :: rest => String.utf8EncodeChar c ++ percentDecode rest
  | [] => []

end Url

end SelectorTutorial
