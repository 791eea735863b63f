import SelectorTutorial.Number.Binary64

/-!
The decimal text of a number: the fewest digits that read back, or a fixed count of places.
Digits are found by trying one grid after another, from one significant digit up, in exact
arithmetic.
-/

namespace SelectorTutorial

namespace Binary64

/-- The positive reals that round to a finite number, as bounds over a common denominator. -/
structure Neighbourhood where
  /-- The number itself. -/
  value : Nat
  /-- The lower bound. -/
  low : Nat
  /-- The upper bound. -/
  high : Nat
  /-- The denominator of all three. -/
  den : Nat
  /-- Whether the bounds themselves round to the number. -/
  closed : Bool

/-- The bounds lie halfway to the neighbours; below a power of two the neighbour is twice as
near. -/
def neighbourhood (x : Binary64) : Neighbourhood :=
  let m := x.significand
  let (unit, den) :=
    if 1074 ≤ x.scale then (Nat.pow 2 (x.scale - 1074), 1) else (1, Nat.pow 2 (1074 - x.scale))
  let below := if m = Nat.pow 2 52 ∧ 0 < x.scale then 1 else 2
  { value := 4 * m * unit, low := (4 * m - below) * unit, high := (4 * m + 2) * unit,
    den := 4 * den, closed := m % 2 == 0 }

/-- The exponent `p` for which a positive quotient lies from `10 ^ (p - 1)` up to below `10 ^ p`. -/
def decimalPlaces (num den : Nat) : Int :=
  if den ≤ num then ((Nat.toDigits 10 (num / den)).length : Int)
  else
    -- The leading zeros are as many as the quotient's inverse has digits, give or take one.
    let digits := (Nat.toDigits 10 (den / num)).length
    if den ≤ num * Nat.pow 10 (digits - 1) then 2 - (digits : Int) else 1 - (digits : Int)

/-- The point of the grid of step `10 ^ step` nearest to the number among those that read back. -/
def onGrid? (n : Neighbourhood) (step : Int) : Option Nat :=
  -- In units of one grid step all three values have the denominator `den`.
  let up (a : Nat) : Nat := if 0 ≤ step then a else a * Nat.pow 10 (-step).toNat
  let den := if 0 ≤ step then n.den * Nat.pow 10 step.toNat else n.den
  let inside (point : Nat) : Bool :=
    if n.closed then up n.low ≤ point * den && point * den ≤ up n.high
    else up n.low < point * den && point * den < up n.high
  let below := up n.value / den
  let nearerAbove := den ≤ 2 * (up n.value % den)
  match inside below, inside (below + 1) with
  | true, true => some (if nearerAbove then below + 1 else below)
  | true, false => some below
  | false, true => some (below + 1)
  | false, false => none

/--
The fewest decimal digits that denote a number rounding to this positive one, and the exponent of
the last of them.  Of equally short ones the nearest is taken, and of two equally near the larger.
-/
def shortest (x : Binary64) : Nat × Int :=
  let n := x.neighbourhood
  let places := decimalPlaces n.value n.den
  let grids := (List.range 17).map fun k => places - (k + 1 : Nat)
  match grids.findSome? fun step => (onGrid? n step).map (·, step) with
  | some found => found
  | none => (n.value / n.den, 0)

/-- The same value with no zero at the end of its digits. -/
def dropZeros : Nat → Nat × Int → Nat × Int
  | 0, d => d
  | fuel + 1, (n, e) => if n ≠ 0 ∧ n % 10 = 0 then dropZeros fuel (n / 10, e + 1) else (n, e)

/-- Zeros. -/
def zeros (n : Nat) : String :=
  .ofList (List.replicate n '0')

/-- The digits of a natural number, filled up with zeros on the left. -/
def padded (width n : Nat) : String :=
  let digits := toString n
  zeros (width - digits.length) ++ digits

/-- The value `n * 10 ^ e` without an exponent and with at least one place after the point. -/
def positional (n : Nat) (e : Int) : String :=
  if 0 ≤ e then toString n ++ zeros e.toNat ++ ".0"
  else
    let places := (-e).toNat
    toString (n / Nat.pow 10 places) ++ "." ++ padded places (n % Nat.pow 10 places)

/-- The value `n * 10 ^ e` with one digit before the point, which is left out when nothing
follows. -/
def scientific (n : Nat) (e : Int) : String :=
  let digits := (toString n).toList
  let exponent := e + (digits.length - 1 : Nat)
  let fraction := digits.drop 1
  .ofList (digits.take 1 ++ if fraction.isEmpty then [] else '.' :: fraction) ++ "e" ++
    toString exponent

/-- The sign is written for negative numbers and for negative zero. -/
def signText (x : Binary64) : String :=
  if x.isNegative then "-" else ""

/--
The shortest text of a finite number that reads back: positional from one ten-thousandth up to below
ten to the sixteenth, in scientific form otherwise.
-/
def text (x : Binary64) : String :=
  if x.isZero then x.signText ++ "0.0" else
  let (n, e) := dropZeros 17 x.shortest
  let places := e + (toString n).length
  x.signText ++ if -3 ≤ places ∧ places ≤ 16 then positional n e else scientific n e

/-- A finite number with a fixed count of places after the point, a tie going to the even digit. -/
def fixed (places : Nat) (x : Binary64) : String :=
  let (num, den) := x.ratio
  let n := roundDiv (num * Nat.pow 10 places) den
  x.signText ++ toString (n / Nat.pow 10 places) ++
    if places = 0 then "" else "." ++ padded places (n % Nat.pow 10 places)

end Binary64

end SelectorTutorial
