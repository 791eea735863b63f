import SelectorTutorial.Json.Basic
import SelectorTutorial.Number.Decimal

/-!
The numbers of a JSON text.  An integer that fits 64 bits is kept as it is.  Any other number is
rounded twice: its digits are cut to what 64 bits hold, and the power of ten that is left is
multiplied or divided once.
-/

namespace SelectorTutorial

namespace Json

/-- A numeral as it is written. -/
structure Numeral where
  /-- Whether a minus sign stands before it. -/
  negative : Bool
  /-- The digits before the point. -/
  whole : List Nat
  /-- The digits after the point, if there is one. -/
  fraction : Option (List Nat)
  /-- The sign and the digits of the exponent, if there is one. -/
  exponent : Option (Bool × List Nat)
deriving DecidableEq, Repr

namespace Numeral

/-- The digits before the point: a zero alone, or any that do not start with a zero. -/
def whole? (cs : List Char) : Option (List Nat × List Char) :=
  match Decimal.spanDigits cs with
  | ([], _) => none
  | (0 :: _ :: _, _) => none
  | found => some found

/-- A point and at least one digit, or nothing. -/
def fraction? : List Char → Option (Option (List Nat) × List Char)
  | '.' :: cs =>
    match Decimal.spanDigits cs with
    | ([], _) => none
    | (digits, rest) => some (some digits, rest)
  | cs => some (none, cs)

/-- The letter `e` or `E`, an optional sign and at least one digit, or nothing. -/
def exponent? : List Char → Option (Option (Bool × List Nat) × List Char)
  | [] => some (none, [])
  | c :: cs =>
    if c != 'e' && c != 'E' then some (none, c :: cs) else
    let (negative, cs) := match cs with
      | '-' :: rest => (true, rest)
      | '+' :: rest => (false, rest)
      | rest => (false, rest)
    match Decimal.spanDigits cs with
    | ([], _) => none
    | (digits, rest) => some (some (negative, digits), rest)

/-- A numeral is the whole of the characters given. -/
def ofChars? (cs : List Char) : Option Numeral := do
  let (negative, cs) := match cs with
    | '-' :: rest => (true, rest)
    | rest => (false, rest)
  let (whole, cs) ← whole? cs
  let (fraction, cs) ← fraction? cs
  let (exponent, cs) ← exponent? cs
  if cs.isEmpty then some { negative, whole, fraction, exponent } else none

/-- The largest unsigned number of 64 bits. -/
def maxSignificand : Nat := UInt64.size - 1

/-- The largest exponent that is worked with. -/
def maxExponent : Nat := Nat.pow 2 31 - 1

/-- Takes digits into a significand as long as it fits 64 bits, and says how many were taken. -/
def absorb (significand : Nat) : List Nat → Nat × Nat
  | [] => (significand, 0)
  | d :: digits =>
    if significand * 10 + d ≤ maxSignificand then
      let (all, taken) := absorb (significand * 10 + d) digits
      (all, taken + 1)
    else (significand, 0)

/-- Dividing by a large power of ten goes by steps of 308 until nothing is left of the number. -/
def divideByPower (n : Nat) (x : Binary64) : Binary64 :=
  if n ≤ 308 then x.div (.powerOfTen n)
  else if x.isZero then x
  else divideByPower (n - 308) (x.div (.powerOfTen 308))
termination_by n

/-- A significand times a power of ten, each rounded; nothing when the product is out of range. -/
def scaled? (negative : Bool) (significand : Nat) (exponent : Int) : Option Binary64 :=
  let x := Binary64.ofInt significand
  let magnitude : Option Binary64 :=
    if 0 ≤ exponent then
      if exponent ≤ 308 then (some (x.mul (.powerOfTen exponent.toNat))).filter (·.isFinite)
      else if x.isZero then some x else none
    else some (divideByPower (-exponent).toNat x)
  magnitude.map (·.withSign negative)

/-- The number that a numeral with a point, an exponent or too many digits denotes. -/
def real? (n : Numeral) : Option Binary64 :=
  let (significand, taken) := absorb 0 n.whole
  let dropped := n.whole.length - taken
  let (significand, places) := absorb significand (n.fraction.getD [])
  let start : Int := (dropped : Int) - places
  match n.exponent with
  | none => scaled? n.negative significand start
  | some (negative, digits) =>
    let exponent := Digits.toNat 10 digits
    if maxExponent < exponent then
      -- The power is beyond all bounds: only zero survives it upwards, and nothing downwards.
      if significand ≠ 0 ∧ !negative then none else some (Binary64.zero.withSign n.negative)
    else scaled? n.negative significand (if negative then start - exponent else start + exponent)

/-- The number that a numeral denotes, if it is in range.  Minus zero is not an integer. -/
def number? (n : Numeral) : Option Number :=
  let value := Digits.toNat 10 n.whole
  if n.fraction.isNone ∧ n.exponent.isNone ∧ value ≤ maxSignificand then
    if !n.negative then some (.whole value)
    else if 0 < value ∧ value ≤ Nat.pow 2 63 then some (.whole (-value))
    else some (.real ((Binary64.ofInt value).withSign true))
  else n.real?.map .real

end Numeral

end Json

end SelectorTutorial
