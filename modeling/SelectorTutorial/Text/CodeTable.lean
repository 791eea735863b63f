import SelectorTutorial.Number.Digits
import SelectorTutorial.Text.Blank

/-!
Tables by code point, for properties of characters that no formula gives.  Each of them is that of
version 17 of the Unicode standard.  A table is kept as lines of words: a word is a code point, or
the first and the last of a run with a hyphen between them, and then what the table says of them.
-/

namespace SelectorTutorial

/-- Code points in a row of which a table says the same. -/
structure CodeRun (α : Type) where
  /-- The first of them. -/
  first : Nat
  /-- The last of them. -/
  last : Nat
  /-- What the table says. -/
  value : α
deriving DecidableEq, Repr

/-- Runs of code points, from the lowest to the highest. -/
abbrev CodeTable (α : Type) := List (CodeRun α)

/-- A table that says no more than which code points are in it. -/
abbrev CodeSet := CodeTable Unit

/-- The code point that some hexadecimal digits write. -/
def codePoint? (digits : List Char) : Option Nat :=
  if digits.isEmpty then none else (Digits.all? 16 digits).map (Digits.toNat 16)

/-- The run that a word writes, if `value?` knows what to make of the part after the code points. -/
def CodeRun.ofWord? {α : Type} (value? : List Char → Option α) (word : List Char) :
    Option (CodeRun α) := do
  let inCodePoints (c : Char) : Bool := c == '-' || (Digits.value? c).isSome
  let value ← value? (word.dropWhile inCodePoints)
  match Text.pieces (· == '-') (word.takeWhile inCodePoints) with
  | [only] => do
    let n ← codePoint? only
    return ⟨n, n, value⟩
  | [first, last] => return ⟨← codePoint? first, ← codePoint? last, value⟩
  | _ => none

/-- The words between the blanks of some lines. -/
def Text.wordsOfLines (lines : List String) : List (List Char) :=
  lines.flatMap fun line => Text.pieces (· == ' ') line.toList

/-- The table that some lines write. -/
def CodeTable.ofLines {α : Type} (value? : List Char → Option α) (lines : List String) :
    CodeTable α :=
  (Text.wordsOfLines lines).filterMap (CodeRun.ofWord? value?)

/-- The run that a character is in. -/
def CodeTable.run? {α : Type} (table : CodeTable α) (c : Char) : Option (CodeRun α) :=
  (table.find? fun run => c.toNat ≤ run.last).filter fun run => run.first ≤ c.toNat

/-- What a table says of a character. -/
def CodeTable.value? {α : Type} (table : CodeTable α) (c : Char) : Option α :=
  (table.run? c).map (·.value)

/-- The set that some lines write. -/
def CodeSet.ofLines (lines : List String) : CodeSet :=
  CodeTable.ofLines (fun rest => if rest.isEmpty then some () else none) lines

/-- Whether a character is in a set. -/
def CodeSet.contains (set : CodeSet) (c : Char) : Bool :=
  (set.run? c).isSome

end SelectorTutorial
