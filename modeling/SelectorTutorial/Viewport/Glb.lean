import SelectorTutorial.Text.Utf8

/-! The head of a binary glTF file. -/

namespace SelectorTutorial

namespace Glb

/-- What the first chunk of a file holds. -/
inductive Chunk where
  /-- The scene as JSON. -/
  | json
  /-- Raw bytes. -/
  | binary
  /-- Something of a type that is not known. -/
  | unknown (type : UInt32)
deriving DecidableEq, Repr

/-- What the head of a file says. -/
structure Header where
  /-- The version of the format. -/
  version : UInt32
  /-- The length that the file is said to have. -/
  declaredLength : UInt32
  /-- The type of the first chunk, if there are bytes enough for one. -/
  firstChunk : Option Chunk
deriving DecidableEq, Repr

/-- Why some bytes are no binary glTF. -/
inductive Fault where
  /-- There are too few of them. -/
  | short (length : Nat)
  /-- They do not begin as they should. -/
  | noMagic
  /-- The version is another one. -/
  | unsupportedVersion (version : UInt32)
  /-- There are fewer of them than they say. -/
  | truncated (declared : UInt32) (length : Nat)
deriving DecidableEq, Repr

/-- The wording of a fault. -/
def Fault.message : Fault → String
  | short length => s!"{length} bytes is shorter than the glb header"
  | noMagic => "missing glTF magic"
  | unsupportedVersion version => s!"unsupported glb version {version}"
  | truncated declared length =>
    s!"declared length {declared} exceeds payload of {length} bytes"

/-- The word made of four bytes, the least significant first. -/
def wordOf (a b c d : UInt8) : UInt32 :=
  .ofNat (a.toNat + 0x100 * b.toNat + 0x10000 * c.toNat + 0x1000000 * d.toNat)

/-- The word that starts at some place, if there are bytes enough for it. -/
def word? (place : Nat) (bytes : Bytes) : Option UInt32 :=
  match bytes.drop place with
  | a :: b :: c :: d :: _ => some (wordOf a b c d)
  | _ => none

/-- The word that a file begins with: the letters glTF. -/
def magic : UInt32 := 0x46546C67

/-- The version that is understood. -/
def supportedVersion : UInt32 := 2

/-- The type of a chunk of JSON: the letters JSON. -/
def jsonType : UInt32 := 0x4E4F534A

/-- The type of a chunk of raw bytes: the letters BIN. -/
def binaryType : UInt32 := 0x004E4942

/-- The chunk that a word stands for. -/
def Chunk.ofType (type : UInt32) : Chunk :=
  if type = jsonType then json
  else if type = binaryType then binary
  else unknown type

/-- The head of a file: what it begins with, version, length, and then the head of the first
chunk. -/
def header? (bytes : Bytes) : Except Fault Header :=
  match word? 0 bytes, word? 4 bytes, word? 8 bytes with
  | some start, some version, some declared =>
    if start ≠ magic then .error .noMagic
    else if version ≠ supportedVersion then .error (.unsupportedVersion version)
    else if bytes.length < declared.toNat then .error (.truncated declared bytes.length)
    else .ok
      { version, declaredLength := declared, firstChunk := (word? 16 bytes).map .ofType }
  | _, _, _ => .error (.short bytes.length)

end Glb

end SelectorTutorial
