/-! UTF-8, read so that every fault is marked where it stands and the characters around it
survive. -/

namespace SelectorTutorial

/-- A sequence of bytes. -/
abbrev Bytes := List UInt8

/-- A character, or `none` for bytes that are not part of one. -/
abbrev Symbol := Option Char

namespace Utf8

/-- The bytes of a text. -/
def encode (s : String) : Bytes :=
  s.toList.flatMap String.utf8EncodeChar

/-- A character whose first bytes have been read. -/
structure Started where
  /-- How many bytes are still to come. -/
  missing : Nat
  /-- The bits of the code point read so far. -/
  bits : Nat
  /-- The smallest value that the next byte may have. -/
  low : Nat
  /-- The largest value that the next byte may have. -/
  high : Nat
deriving DecidableEq, Repr

/-- A byte met between characters is a character of its own, starts a longer one, or is a fault. -/
def first (b : Nat) : List Symbol × Option Started :=
  if b < 0x80 then ([some (.ofNat b)], none)
  else if 0xC2 ≤ b ∧ b ≤ 0xDF then ([], some ⟨1, b - 0xC0, 0x80, 0xBF⟩)
  else if b = 0xE0 then ([], some ⟨2, 0, 0xA0, 0xBF⟩)
  else if b = 0xED then ([], some ⟨2, 0xD, 0x80, 0x9F⟩)
  else if 0xE1 ≤ b ∧ b ≤ 0xEF then ([], some ⟨2, b - 0xE0, 0x80, 0xBF⟩)
  else if b = 0xF0 then ([], some ⟨3, 0, 0x90, 0xBF⟩)
  else if b = 0xF4 then ([], some ⟨3, 4, 0x80, 0x8F⟩)
  else if 0xF1 ≤ b ∧ b ≤ 0xF3 then ([], some ⟨3, b - 0xF0, 0x80, 0xBF⟩)
  else ([none], none)

/-- A byte that cannot continue the character begun before it closes that one as a single fault. -/
def next (started : Option Started) (b : Nat) : List Symbol × Option Started :=
  match started with
  | none => first b
  | some s =>
    if s.low ≤ b ∧ b ≤ s.high then
      let bits := s.bits * 64 + (b - 0x80)
      if s.missing ≤ 1 then ([some (.ofNat bits)], none)
      else ([], some ⟨s.missing - 1, bits, 0x80, 0xBF⟩)
    else
      let (symbols, after) := first b
      (none :: symbols, after)

/-- Reads on from a character that may have been started; one left open at the end is a fault. -/
def symbolsFrom : Option Started → Bytes → List Symbol
  | started, [] => if started.isSome then [none] else []
  | started, b :: bs =>
    let (symbols, after) := next started b.toNat
    symbols ++ symbolsFrom after bs

/-- The characters of some bytes, with one `none` for each longest part that begins no character. -/
def symbols (bytes : Bytes) : List Symbol :=
  symbolsFrom none bytes

/-- The text of some bytes, if they hold no fault. -/
def decode? (bytes : Bytes) : Option String :=
  ((symbols bytes).mapM id).map .ofList

/-- The text of some bytes with U+FFFD in place of each fault. -/
def decodeLossy (bytes : Bytes) : String :=
  .ofList ((symbols bytes).map (·.getD '\uFFFD'))

end Utf8

end SelectorTutorial
