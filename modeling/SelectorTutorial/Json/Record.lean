import SelectorTutorial.Json.Basic

/-!
Records, that is values with named fields, as JSON.  A record is read from its known members alone:
each at most once, in any order, among any others.
-/

namespace SelectorTutorial

namespace Json

/-- The members of an object under one name. -/
def membersNamed (name : String) (members : List (String × Json)) : List Json :=
  (members.filter fun member => member.1 == name).map (·.2)

/-- A member that has to be there once, read as `read` says. -/
def required {α : Type} (name : String) (read : Json → Option α)
    (members : List (String × Json)) : Option α :=
  match membersNamed name members with
  | [value] => read value
  | _ => none

/-- A member that may be missing, which stands for a default; twice it is refused. -/
def defaulted {α : Type} (name : String) (read : Json → Option α) (default : α)
    (members : List (String × Json)) : Option α :=
  match membersNamed name members with
  | [] => some default
  | [value] => read value
  | _ => none

/-- A member that may be missing or null. -/
def optional {α : Type} (name : String) (read : Json → Option α)
    (members : List (String × Json)) : Option (Option α) :=
  defaulted name (nullable? read) none members

/--
The members of a record.  A list stands for the record whose first fields, in the order of their
declaration, have the values listed.
-/
def record? (fields : List String) : Json → Option (List (String × Json))
  | .object members => some members
  | .list items => if items.length ≤ fields.length then some (fields.zip items) else none
  | _ => none

/-- A member that is written only when it has a value. -/
def memberIfSome {α : Type} (name : String) (write : α → Json) : Option α → List (String × Json)
  | some value => [(name, write value)]
  | none => []

/-- A value that is written as null when it is missing. -/
def ofOption {α : Type} (write : α → Json) : Option α → Json
  | some value => write value
  | none => .null

end Json

end SelectorTutorial
