import SelectorTutorial.Number.Binary64
import SelectorTutorial.Number.Digits

/-! Decimal numerals: their digits, and the number nearest to the value they denote. -/

namespace SelectorTutorial

/-- The value of a decimal digit. -/
def digitValue? (c : Char) : Option Nat :=
  if c.isDigit then some (c.toNat - '0'.toNat) else none

namespace Decimal

/-- The digits at the head of some characters, and what follows them. -/
def spanDigits : List Char → List Nat × List Char
  | [] => ([], [])
  | c :: cs =>
    match digitValue? c with
    | some d =>
      let (digits, rest) := spanDigits cs
      (d :: digits, rest)
    | none => ([], c :: cs)

/-- The number nearest to `n * 10 ^ e`, of either sign. -/
def toBinary64 (negative : Bool) (n : Nat) (e : Int) : Binary64 :=
  -- A power of ten far outside the format's range is not worked out.
  let places : Int := (Nat.toDigits 10 n).length + e
  if n = 0 ∨ places < -400 then .ofMagnitude negative 0
  else if 400 < places then .ofMagnitude negative Binary64.infinite
  else if 0 ≤ e then .ofRatio negative (n * Nat.pow 10 e.toNat) 1
  else .ofRatio negative n (Nat.pow 10 (-e).toNat)

/-- An exponent: nothing, or `e` or `E`, an optional sign and at least one digit, up to the end. -/
def exponent? : List Char → Option Int
  | [] => some 0
  | c :: cs =>
    if c != 'e' && c != 'E' then none else
    let (negative, cs) := match cs with
      | '-' :: rest => (true, rest)
      | '+' :: rest => (false, rest)
      | rest => (false, rest)
    match spanDigits cs with
    | ([], _) => none
    | (digits, []) => some (if negative then -(Digits.toNat 10 digits) else Digits.toNat 10 digits)
    | _ => none

/-- A number without its sign: digits with at most one point among or beside them, and an
exponent. -/
def unsigned? (negative : Bool) (cs : List Char) : Option Binary64 :=
  let (whole, rest) := spanDigits cs
  let (fraction, rest) := match rest with
    | '.' :: after => spanDigits after
    | _ => ([], rest)
  if whole.isEmpty && fraction.isEmpty then none
  else (exponent? rest).map fun e =>
    toBinary64 negative (Digits.toNat 10 (whole ++ fraction)) (e - fraction.length)

/--
The finite number that a text denotes, correctly rounded.  The words for infinity and for no number
denote nothing finite, and neither does a numeral past the largest number.
-/
def finite? (text : String) : Option Binary64 :=
  let (negative, cs) := match text.toList with
    | '-' :: rest => (true, rest)
    | '+' :: rest => (false, rest)
    | rest => (false, rest)
  (unsigned? negative cs).filter (·.isFinite)

end Decimal

end SelectorTutorial
