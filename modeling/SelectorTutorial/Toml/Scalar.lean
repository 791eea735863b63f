import SelectorTutorial.Number.Decimal
import SelectorTutorial.Toml.Moment
import SelectorTutorial.Toml.Value

/-! The words, numbers, dates and times of TOML. -/

namespace SelectorTutorial

namespace Toml

/-- Digits, which may be set apart by single bars. -/
def grouped? (base : Nat) : List Char → Option (List Nat)
  | [] => none
  | [c] => (Digits.below? base c).map ([·])
  | c :: '_' :: rest => do
    let digit ← Digits.below? base c
    let digits ← grouped? base rest
    return digit :: digits
  | c :: rest => do
    let digit ← Digits.below? base c
    let digits ← grouped? base rest
    return digit :: digits

/-- A decimal number has no zeros before its other digits. -/
def whole? (cs : List Char) : Option (List Nat) :=
  (grouped? 10 cs).filter fun digits => digits.length = 1 ∨ digits.head? ≠ some 0

/-- A sign, if there is one, and what follows it. -/
def signed : List Char → Bool × List Char
  | '-' :: rest => (true, rest)
  | '+' :: rest => (false, rest)
  | cs => (false, cs)

/-- An integer fits 64 bits with a sign. -/
def inRange? (i : Int) : Option Int :=
  if Int64.minValue.toInt ≤ i ∧ i ≤ Int64.maxValue.toInt then some i else none

/-- An integer, in another base only without a sign. -/
def integer? : List Char → Option Int
  | '0' :: 'x' :: cs => (grouped? 16 cs).bind fun digits => inRange? (Digits.toNat 16 digits)
  | '0' :: 'o' :: cs => (grouped? 8 cs).bind fun digits => inRange? (Digits.toNat 8 digits)
  | '0' :: 'b' :: cs => (grouped? 2 cs).bind fun digits => inRange? (Digits.toNat 2 digits)
  | cs =>
    let (isNegative, cs) := signed cs
    (whole? cs).bind fun digits =>
      let n : Int := Digits.toNat 10 digits
      inRange? (if isNegative then -n else n)

/-- Whether a character starts an exponent. -/
def isExponentMark (c : Char) : Bool :=
  c == 'e' || c == 'E'

/-- An exponent without its mark. -/
def exponent? (cs : List Char) : Option Int :=
  let (isNegative, cs) := signed cs
  (grouped? 10 cs).map fun digits =>
    let n : Int := Digits.toNat 10 digits
    if isNegative then -n else n

/-- A number with a fraction or an exponent or both. -/
def fractional? (isNegative : Bool) (cs : List Char) : Option Binary64 := do
  let digits ← whole? (cs.takeWhile fun c => c != '.' && !isExponentMark c)
  match cs.dropWhile fun c => c != '.' && !isExponentMark c with
  | '.' :: rest =>
    let fraction ← grouped? 10 (rest.takeWhile fun c => !isExponentMark c)
    let e ← match rest.dropWhile fun c => !isExponentMark c with
      | [] => some 0
      | _ :: rest => exponent? rest
    return Decimal.toBinary64 isNegative (Digits.toNat 10 (digits ++ fraction))
      (e - fraction.length)
  | _ :: rest =>
    let e ← exponent? rest
    return Decimal.toBinary64 isNegative (Digits.toNat 10 digits) e
  | [] => none

/-- A number that is no integer; one past the largest number is refused, one below the least is
not. -/
def real? (cs : List Char) : Option Binary64 :=
  let (isNegative, cs) := signed cs
  if cs = "inf".toList then some (.ofMagnitude isNegative Binary64.infinite)
  else if cs = "nan".toList then some (.ofMagnitude isNegative (Binary64.infinite + 1))
  else (fractional? isNegative cs).filter fun x => x.isFinite || x.isNegative

/-- The value of a word, number, date or time. -/
def scalar? (cs : List Char) : Option Toml :=
  if cs = "true".toList then some (.bool true)
  else if cs = "false".toList then some (.bool false)
  else if Clock.file.isMoment cs then some (.moment (.ofList cs))
  else match integer? cs with
    | some i => some (.integer i)
    | none => (real? cs).map .real

/-- The characters that words, numbers, dates and times are made of. -/
def isScalarChar (c : Char) : Bool :=
  c.isAlphanum || c == '+' || c == '-' || c == '.' || c == '_' || c == ':'

/-- The characters at the head that make up a value; a blank may stand between a date and a time. -/
def scalarHead (cs : List Char) : List Char :=
  let first := cs.takeWhile isScalarChar
  match afterDate? first, cs.drop first.length with
  | some [], ' ' :: c :: rest =>
    if c.isDigit then first ++ ' ' :: (c :: rest).takeWhile isScalarChar else first
  | _, _ => first

end Toml

end SelectorTutorial
