import SelectorTutorial.Number.Binary64

/-! JSON values, with the members of an object in the order in which they were written. -/

namespace SelectorTutorial

/-- A JSON number keeps apart what was written as an integer and what was not. -/
inductive Json.Number where
  /-- An integer that fits 64 bits, signed or unsigned. -/
  | whole (value : Int)
  /-- Any other finite number. -/
  | real (value : Binary64)
deriving DecidableEq, Repr

/-- A JSON value. -/
inductive Json where
  | null
  | bool (value : Bool)
  | number (value : Json.Number)
  | text (value : String)
  | list (items : List Json)
  | object (members : List (String × Json))
  /--
  Something that is well-formed but no value: a number out of range, text that is not Unicode, or an
  object with such a name.  It may stand where nobody looks, and no reader accepts it.
  -/
  | unreadable
deriving Repr, Inhabited

namespace Json

/-- A number that is not finite has no JSON form of its own and is written as null. -/
def ofBinary64 (x : Binary64) : Json :=
  if x.isFinite then .number (.real x) else .null

/-- An integer. -/
def ofInt (i : Int) : Json :=
  .number (.whole i)

/-- A natural number. -/
def ofNat (n : Nat) : Json :=
  .number (.whole n)

/-- A list of texts. -/
def ofTexts (texts : List String) : Json :=
  .list (texts.map .text)

/-- A text is read as it is. -/
def text? : Json → Option String
  | .text s => some s
  | _ => none

/-- Every JSON number is read as the 64-bit number nearest to it. -/
def binary64? : Json → Option Binary64
  | .number (.whole i) => some (.ofInt i)
  | .number (.real x) => some x
  | _ => none

/-- An integer is read only where it was written as one. -/
def int? : Json → Option Int
  | .number (.whole i) => some i
  | _ => none

/-- A list is read item by item, and one refused item refuses the list. -/
def listOf? {α : Type} (read : Json → Option α) : Json → Option (List α)
  | .list items => items.mapM read
  | _ => none

/-- Null stands for nothing, and any other value is read. -/
def nullable? {α : Type} (read : Json → Option α) : Json → Option (Option α)
  | .null => some none
  | json => (read json).map some

/-- A value can be kept when all of it is readable and it is nested no deeper than `levels`. -/
def keepable : (levels : Nat) → Json → Bool
  | _, .unreadable => false
  | 0, .list _ => false
  | 0, .object _ => false
  | levels + 1, .list items => items.all (keepable levels)
  | levels + 1, .object members => members.all fun member => keepable levels member.2
  | _, _ => true

end Json

end SelectorTutorial
