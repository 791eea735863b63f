import SelectorTutorial.Url.Percent
import SelectorTutorial.Text.Blank

/-! The numeric addresses that a host can be: four bytes, or eight pieces of two bytes each. -/

namespace SelectorTutorial

namespace Url

/-- A part of a four-byte address: hexadecimal after `0x`, octal after a leading zero, else
decimal. -/
def addressPart? : List Char → Option Nat
  | [] => none
  | '0' :: 'x' :: digits => (Digits.all? 16 digits).map (Digits.toNat 16)
  | '0' :: 'X' :: digits => (Digits.all? 16 digits).map (Digits.toNat 16)
  | '0' :: d :: digits => (Digits.all? 8 (d :: digits)).map (Digits.toNat 8)
  | digits => (Digits.all? 10 digits).map (Digits.toNat 10)

/-- The parts between the dots of a name, without an empty one at the end. -/
def dottedParts (cs : List Char) : List (List Char) :=
  let parts := Text.pieces (· == '.') cs
  if parts.getLast? = some [] then parts.dropLast else parts

/-- A name whose last part is a number can only be a four-byte address. -/
def endsInNumber (cs : List Char) : Bool :=
  match (dottedParts cs).getLast? with
  | none => false
  | some last => (!last.isEmpty && last.all Char.isDigit) || (addressPart? last).isSome

/-- A four-byte address: at most four parts, of which the last fills all bytes that are left. -/
def ipv4? (cs : List Char) : Option Nat := do
  let parts ← (dottedParts cs).mapM addressPart?
  let last ← parts.getLast?
  let before := parts.dropLast
  if 3 < before.length ∨ before.any (255 < ·) ∨ Nat.pow 256 (4 - before.length) ≤ last then none
  else some (Digits.toNat 256 before * Nat.pow 256 (4 - before.length) + last)

/-- The four bytes of an address in decimal. -/
def ipv4Text (address : Nat) : String :=
  let part (weight : Nat) : Nat := address / weight % 256
  s!"{part 0x1000000}.{part 0x10000}.{part 0x100}.{part 1}"

/-- A byte of a four-byte address inside of a longer one: decimal, without a leading zero. -/
def innerByte? (cs : List Char) : Option Nat :=
  match cs with
  | ['0'] => some 0
  | '0' :: _ => none
  | _ => if cs.isEmpty then none else
    ((Digits.all? 10 cs).map (Digits.toNat 10)).filter (· < 256)

/-- A piece of an eight-piece address: one to four hexadecimal digits. -/
def piece? (cs : List Char) : Option Nat :=
  if cs.isEmpty ∨ 4 < cs.length then none else (Digits.all? 16 cs).map (Digits.toNat 16)

/-- The pieces of one side of an address, the last of which may be written as four bytes. -/
def sidePieces? (mayEndInBytes : Bool) : List (List Char) → Option (List Nat)
  | [] => some []
  | [last] =>
    if mayEndInBytes ∧ last.contains '.' then do
      let bytes ← (Text.pieces (· == '.') last).mapM innerByte?
      match bytes with
      | [a, b, c, d] => some [256 * a + b, 256 * c + d]
      | _ => none
    else (piece? last).map ([·])
  | head :: rest => do
    let first ← piece? head
    let others ← sidePieces? mayEndInBytes rest
    return first :: others

/-- The parts between the colons; nothing at all has none. -/
def colonParts (cs : List Char) : List (List Char) :=
  if cs.isEmpty then [] else Text.pieces (· == ':') cs

/-- The text before and after the first double colon. -/
def atDoubleColon? : List Char → Option (List Char × List Char)
  | ':' :: ':' :: rest => some ([], rest)
  | c :: rest => (atDoubleColon? rest).map fun (before, after) => (c :: before, after)
  | [] => none

/-- An eight-piece address; a double colon stands for as many zeros, at least one, as are
missing. -/
def ipv6? (cs : List Char) : Option (List Nat) :=
  match atDoubleColon? cs with
  | none => (sidePieces? true (colonParts cs)).filter (·.length = 8)
  | some (before, after) => do
    let left ← sidePieces? false (colonParts before)
    let right ← sidePieces? true (colonParts after)
    if 8 ≤ left.length + right.length then none
    else some (left ++ List.replicate (8 - left.length - right.length) 0 ++ right)

/-- The length of the run of zeros at the head of some pieces. -/
def zeroRun (pieces : List Nat) : Nat :=
  (pieces.takeWhile (· == 0)).length

/-- Where the first of the longest runs of zeros starts, and its length. -/
def longestZeroRun (pieces : List Nat) : Nat × Nat :=
  let runs := (List.range pieces.length).map fun i => (i, zeroRun (pieces.drop i))
  runs.foldl (fun best run => if best.2 < run.2 then run else best) (0, 0)

/-- Pieces in hexadecimal with colons between them. -/
def piecesText (pieces : List Nat) : String :=
  ":".intercalate (pieces.map fun n => .ofList (Nat.toDigits 16 n))

/-- The address with its longest run of at least two zeros left out. -/
def ipv6Text (pieces : List Nat) : String :=
  let (start, length) := longestZeroRun pieces
  if length < 2 then piecesText pieces
  else piecesText (pieces.take start) ++ "::" ++ piecesText (pieces.drop (start + length))

end Url

end SelectorTutorial
