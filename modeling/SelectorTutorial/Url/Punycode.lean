/-! Punycode: a label beyond ASCII written in letters, digits and hyphens. -/

namespace SelectorTutorial

namespace Url.Punycode

/-- The character for a digit in base 36. -/
def digitChar (d : Nat) : Char :=
  .ofNat (if d < 26 then 'a'.toNat + d else '0'.toNat + (d - 26))

/-- The digit that a character stands for. -/
def digit? (c : Char) : Option Nat :=
  if c.isLower then some (c.toNat - 'a'.toNat)
  else if c.isUpper then some (c.toNat - 'A'.toNat)
  else if c.isDigit then some (c.toNat - '0'.toNat + 26)
  else none

/-- The smallest value of a digit, at a place and under a bias, after which another digit
follows. -/
def threshold (place bias : Nat) : Nat :=
  min 26 (max 1 (place - bias))

/-- A delta is cut down until it is small, and counts how often that was done. -/
def shrink (delta : Nat) : Nat × Nat :=
  if 455 < delta then
    let (rest, times) := shrink (delta / 35)
    (rest, times + 1)
  else (delta, 0)
termination_by delta
decreasing_by exact Nat.div_lt_self (by omega) (by omega)

/-- The bias after a delta, by which the next one is likely to be written short. -/
def adapt (delta count : Nat) (isFirst : Bool) : Nat :=
  let damped := if isFirst then delta / 700 else delta / 2
  let (rest, times) := shrink (damped + damped / count)
  36 * times + 36 * rest / (rest + 38)

/-- A delta in digits, the first of least weight; `fuel` is at least the count of its digits. -/
def encodeDelta : (fuel : Nat) → (place bias delta : Nat) → List Char
  | 0, _, _, _ => []
  | fuel + 1, place, bias, delta =>
    let t := threshold place bias
    if delta < t then [digitChar delta]
    else digitChar (t + (delta - t) % (36 - t)) ::
      encodeDelta fuel (place + 36) bias ((delta - t) / (36 - t))

/-- What an encoder has written and where it stands. -/
structure Encoder where
  /-- The digits written. -/
  written : List Char
  /-- The distance from the last character inserted. -/
  delta : Nat
  /-- The bias of the next delta. -/
  bias : Nat
  /-- How many characters have been placed. -/
  placed : Nat

/-- Passing a character of the label while those of code point `n` are inserted. -/
def Encoder.pass (basic n : Nat) (e : Encoder) (c : Char) : Encoder :=
  if c.toNat < n then { e with delta := e.delta + 1 }
  else if c.toNat = n then
    { written := e.written ++ encodeDelta 32 36 e.bias e.delta
      delta := 0
      bias := adapt e.delta (e.placed + 1) (e.placed == basic)
      placed := e.placed + 1 }
  else e

/-- Inserts the characters of each code point in turn, from one before which all are placed. -/
def encodeFrom (label : List Char) (basic : Nat) : List Nat → Nat → Encoder → Encoder
  | [], _, e => e
  | n :: points, before, e =>
    let e := { e with delta := e.delta + (n - before) * (e.placed + 1) }
    let e := label.foldl (Encoder.pass basic n) e
    encodeFrom label basic points (n + 1) { e with delta := e.delta + 1 }

/-- The ASCII form of a label, without its mark. -/
def encode (label : List Char) : List Char :=
  let basic := label.filter fun c => c.toNat < 0x80
  let points := ((label.filter fun c => 0x80 ≤ c.toNat).map Char.toNat).mergeSort.eraseDups
  let start : Encoder := { written := [], delta := 0, bias := 72, placed := basic.length }
  basic ++ (if basic.isEmpty then [] else ['-']) ++
    (encodeFrom label basic.length points 0x80 start).written

/-- Neither the weight of a digit nor a position may take more than 32 bits. -/
def wordSize : Nat := UInt32.size

/-- A delta read from digits, and what follows it. -/
def decodeDelta? : (place bias weight : Nat) → List Char → Option (Nat × List Char)
  | _, _, _, [] => none
  | place, bias, weight, c :: rest => do
    let d ← digit? c
    let t := threshold place bias
    if d < t then return (d * weight, rest)
    if wordSize ≤ weight * (36 - t) then none
    let (more, rest) ← decodeDelta? (place + 36) bias (weight * (36 - t)) rest
    return (d * weight + more, rest)

/-- Inserts one character for each delta; `fuel` is at least their count. -/
def decodeFrom? : (fuel : Nat) → (point position bias : Nat) → List Char → List Char →
    Option (List Char)
  | 0, _, _, _, _, _ => none
  | _ + 1, _, _, _, placed, [] => some placed
  | fuel + 1, point, position, bias, placed, digits => do
    let (delta, rest) ← decodeDelta? 36 bias 1 digits
    let count := placed.length + 1
    let position := position + delta
    if wordSize ≤ position then none
    let point := point + position / count
    let bias := adapt delta count (placed.all fun c => c.toNat < 0x80)
    if h : point.isValidChar then
      let position := position % count
      let placed := placed.take position ++ [Char.ofNatAux point h] ++ placed.drop position
      decodeFrom? fuel point (position + 1) bias placed rest
    else none

/-- The label that an ASCII form stands for.  A hyphen with nothing before it sets nothing apart. -/
def decode? (form : List Char) : Option (List Char) :=
  let digits := (form.reverse.takeWhile (· != '-')).reverse
  let basic := (form.take (form.length - digits.length)).dropLast
  if basic.isEmpty then decodeFrom? (form.length + 1) 0x80 0 72 [] form
  else decodeFrom? (digits.length + 1) 0x80 0 72 basic digits

end Url.Punycode

end SelectorTutorial
