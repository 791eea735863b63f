/-! Digits in any base up to sixteen, and the numbers that they write. -/

namespace SelectorTutorial

namespace Digits

/-- The value of a hexadecimal digit, in letters of either case. -/
def value? (c : Char) : Option Nat :=
  let n := c.toNat
  if c.isDigit then some (n - '0'.toNat)
  else if 'a'.toNat ≤ n ∧ n ≤ 'f'.toNat then some (n - 'a'.toNat + 10)
  else if 'A'.toNat ≤ n ∧ n ≤ 'F'.toNat then some (n - 'A'.toNat + 10)
  else none

/-- The value of a digit in a base of at most sixteen. -/
def below? (base : Nat) (c : Char) : Option Nat :=
  (value? c).filter (· < base)

/-- The values of some characters, if all of them are digits in a base. -/
def all? (base : Nat) (cs : List Char) : Option (List Nat) :=
  cs.mapM (below? base)

/-- The natural number with the given digits, most significant first. -/
def toNat (base : Nat) (digits : List Nat) : Nat :=
  digits.foldl (fun n d => n * base + d) 0

end Digits

end SelectorTutorial
