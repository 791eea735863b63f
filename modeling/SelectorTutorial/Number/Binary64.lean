/-!
Binary floating-point numbers of 64 bits, kept as their bits.  Every rounding is done in exact
arithmetic on natural numbers: to the nearest, a tie to the even neighbour.
-/

namespace SelectorTutorial

/-- A number in the 64-bit binary interchange format: sign, eleven exponent bits, 52 fraction
bits. -/
structure Binary64 where
  /-- The bits of the number, sign first. -/
  bits : UInt64
deriving DecidableEq, Repr

namespace Binary64

/-- Positive zero. -/
def zero : Binary64 := ⟨0⟩

instance : Inhabited Binary64 := ⟨zero⟩

/-- The sign bit is set for negative numbers and for negative zero. -/
def isNegative (x : Binary64) : Bool :=
  x.bits.toNat / Nat.pow 2 63 == 1

/-- The bits without the sign. -/
def magnitude (x : Binary64) : Nat :=
  x.bits.toNat % Nat.pow 2 63

/-- The magnitude of infinity; every smaller one belongs to a finite number. -/
def infinite : Nat := 0x7FF * Nat.pow 2 52

/-- A number is finite unless all of its exponent bits are set. -/
def isFinite (x : Binary64) : Bool :=
  x.magnitude < infinite

/-- Zero of either sign. -/
def isZero (x : Binary64) : Bool :=
  x.magnitude == 0

/-- A finite number has the absolute value `significand * 2 ^ (scale - 1074)`. -/
def significand (x : Binary64) : Nat :=
  if x.magnitude < Nat.pow 2 52 then x.magnitude else x.magnitude % Nat.pow 2 52 + Nat.pow 2 52

/-- The power of two, counted up from the smallest, that the significand is multiplied with. -/
def scale (x : Binary64) : Nat :=
  x.magnitude / Nat.pow 2 52 - 1

/-- The number with a given sign and magnitude. -/
def ofMagnitude (negative : Bool) (magnitude : Nat) : Binary64 :=
  ⟨.ofNat (magnitude + if negative then Nat.pow 2 63 else 0)⟩

/-- A quotient rounded to the nearest integer, a tie to the even one. -/
def roundDiv (num den : Nat) : Nat :=
  let quotient := num / den
  let rest := num % den
  if den < 2 * rest ∨ (2 * rest = den ∧ quotient % 2 = 1) then quotient + 1 else quotient

/-- The magnitude nearest to a quotient; from the largest finite number on it is infinity. -/
def magnitudeOfRatio (num den : Nat) : Nat :=
  -- The significand gets 53 bits, or fewer when the exponent would fall below the smallest.
  if num = 0 ∨ den = 0 then 0 else
  let guess : Int := (num.log2 : Int) - den.log2 - 52
  let scaled (e : Int) : Nat × Nat :=
    if 0 ≤ e then (num, den * Nat.pow 2 e.toNat) else (num * Nat.pow 2 (-e).toNat, den)
  let (n, d) := scaled guess
  let exponent := max (-1074) (if n / d < Nat.pow 2 52 then guess - 1 else guess)
  let (n, d) := scaled exponent
  min infinite ((exponent + 1074).toNat * Nat.pow 2 52 + roundDiv n d)

/-- The number nearest to a quotient of natural numbers. -/
def ofRatio (negative : Bool) (num den : Nat) : Binary64 :=
  ofMagnitude negative (magnitudeOfRatio num den)

/-- The number nearest to an integer. -/
def ofInt (i : Int) : Binary64 :=
  ofRatio (decide (i < 0)) i.natAbs 1

/-- The absolute value of a finite number as an exact quotient. -/
def ratio (x : Binary64) : Nat × Nat :=
  if 1074 ≤ x.scale then (x.significand * Nat.pow 2 (x.scale - 1074), 1)
  else (x.significand, Nat.pow 2 (1074 - x.scale))

/-- The product of two finite numbers, rounded once. -/
def mul (x y : Binary64) : Binary64 :=
  let (a, b) := x.ratio
  let (c, d) := y.ratio
  ofRatio (x.isNegative != y.isNegative) (a * c) (b * d)

/-- The quotient of two finite numbers, rounded once. -/
def div (x y : Binary64) : Binary64 :=
  let (a, b) := x.ratio
  let (c, d) := y.ratio
  ofRatio (x.isNegative != y.isNegative) (a * d) (b * c)

/-- The same number with the given sign. -/
def withSign (negative : Bool) (x : Binary64) : Binary64 :=
  ofMagnitude negative x.magnitude

/-- The number nearest to a power of ten. -/
def powerOfTen (n : Nat) : Binary64 :=
  ofRatio false (Nat.pow 10 n) 1

end Binary64

end SelectorTutorial
