import SelectorTutorial.Toml.Moment
import SelectorTutorial.Toml.Value

/-!
A name that is reserved for dates and times.  A table that has it first stands for what its value
writes, and is nothing at all if that is no date or time.
-/

namespace SelectorTutorial

namespace Toml

/-- The name that makes a table a date or a time. -/
def reservedName : String := "$__toml_private_datetime"

/-- Whether the first entry of a table makes it a date or a time, and if so, whether it is one. -/
def momentOf? : (entries : List (String × Toml)) → Option Bool
  | (name, value) :: _ =>
    if name = reservedName then
      match value with
      | .text s => some (Clock.text.isMoment s.toList)
      | _ => some false
    else none
  | [] => none

mutual

/-- Whether every table in a value that should be a date or a time is one. -/
def isSound : Toml → Bool
  | .list items => areSound items
  | .record entries => (momentOf? entries).getD (haveSoundValues entries)
  | .table _ entries => (momentOf? entries).getD (haveSoundValues entries)
  | .tables several => areSoundTables several
  | _ => true

/-- Whether all of some values are sound. -/
def areSound : List Toml → Bool
  | [] => true
  | value :: rest => isSound value && areSound rest

/-- Whether all values under some names are sound. -/
def haveSoundValues : List (String × Toml) → Bool
  | [] => true
  | (_, value) :: rest => isSound value && haveSoundValues rest

/-- Whether all of some tables are sound. -/
def areSoundTables : List (List (String × Toml)) → Bool
  | [] => true
  | entries :: rest => (momentOf? entries).getD (haveSoundValues entries) && areSoundTables rest

end

end Toml

end SelectorTutorial
