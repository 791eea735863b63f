import SelectorTutorial.Number.Binary64

/-! TOML values, and the rules by which the lines of a file add up to one table. -/

namespace SelectorTutorial

/-- How a table came to be, which decides what may still be added to it. -/
inductive Toml.Origin where
  /-- By a header that names a table inside of it. -/
  | implied
  /-- By a key with dots. -/
  | dotted
  /-- By a header of its own, or as the table of the whole file. -/
  | header
deriving DecidableEq, Repr

/-- A TOML value. -/
inductive Toml where
  | text (value : String)
  | integer (value : Int)
  | real (value : Binary64)
  | bool (value : Bool)
  /-- A date, a time, or both, as it was written. -/
  | moment (written : String)
  | list (items : List Toml)
  /-- A table between braces, which is complete. -/
  | record (entries : List (String × Toml))
  /-- A table that lines of the file make up. -/
  | table (origin : Toml.Origin) (entries : List (String × Toml))
  /-- Tables under headers of the same name. -/
  | tables (several : List (List (String × Toml)))
deriving Repr

namespace Toml

/-- The names and values of a table. -/
abbrev Entries := List (String × Toml)

namespace Entries

/-- The value under a name. -/
def find? (entries : Entries) (name : String) : Option Toml :=
  (List.find? (·.1 == name) entries).map (·.2)

/-- A table with the value under a name replaced, or put at its end if it is new. -/
def set (entries : Entries) (name : String) (value : Toml) : Entries :=
  if (entries.find? name).isSome then
    entries.map fun entry => if entry.1 == name then (name, value) else entry
  else entries ++ [(name, value)]

/-- A change to a table, which may be refused. -/
abbrev Change := Origin → Entries → Option Entries

/--
Changes the table at the end of a path.  Tables that are missing on the way are made, and of tables
under the same header the last one is meant.  A key with dots does not lead into a table that has a
header.
-/
def within (isDotted : Bool) : (path : List String) → Change → Change
  | [], change, origin, entries => change origin entries
  | name :: path, change, _, entries =>
    match entries.find? name with
    | none => do
      let origin := if isDotted then .dotted else .implied
      let inner ← within isDotted path change origin []
      return entries.set name (.table origin inner)
    | some (.table origin inner) =>
      if isDotted && origin == .header then none
      else do
        let inner ← within isDotted path change origin inner
        return entries.set name (.table origin inner)
    | some (.tables several) => do
      let last ← several.getLast?
      let inner ← within isDotted path change .header last
      return entries.set name (.tables (several.dropLast ++ [inner]))
    | some _ => none

/-- Gives a value to a name that has none, in a table that was made by the dots before the name. -/
def assign (dots : List String) (name : String) (value : Toml) : Change :=
  within true dots fun origin entries =>
    if dots ≠ [] ∧ origin ≠ .dotted then none
    else if (entries.find? name).isSome then none
    else some (entries.set name value)

/--
Opens the table under a header, which may only have been implied before.  Its place is where it is
opened, after everything that the table around it has.
-/
def openTable (name : String) : Change := fun _ entries =>
  match entries.find? name with
  | none => some (entries.set name (.table .header []))
  | some (.table .implied inner) =>
    some (entries.filter (·.1 != name) ++ [(name, .table .header inner)])
  | some _ => none

/-- Opens one more table under a header. -/
def openNext (name : String) : Change := fun _ entries =>
  match entries.find? name with
  | none => some (entries.set name (.tables [[]]))
  | some (.tables several) => some (entries.set name (.tables (several ++ [[]])))
  | some _ => none

end Entries

/-- A line of a file that says something. -/
inductive Line where
  /-- A header, which opens a table. -/
  | header (path : List String) (name : String)
  /-- A header that may come again, and opens one more table each time. -/
  | next (path : List String) (name : String)
  /-- A value for a name, with dots before it. -/
  | value (dots : List String) (name : String) (value : Toml)
deriving Repr

/-- The table of the whole file so far, and the path of the table that was opened last. -/
structure Document where
  /-- The table of the whole file. -/
  entries : Entries := []
  /-- The path of the table that values go into. -/
  opened : List String := []
deriving Repr

namespace Document

/-- A file with one more line. -/
def add (doc : Document) : Line → Option Document
  | .header path name => do
    let entries ← Entries.within false path (Entries.openTable name) .header doc.entries
    return { entries, opened := path ++ [name] }
  | .next path name => do
    let entries ← Entries.within false path (Entries.openNext name) .header doc.entries
    return { entries, opened := path ++ [name] }
  | .value dots name value => do
    let entries ←
      Entries.within false doc.opened (Entries.assign dots name value) .header doc.entries
    return { doc with entries }

/-- The table that some lines make up, unless they contradict each other. -/
def ofLines? (lines : List Line) : Option Entries :=
  (lines.foldlM add {}).map (·.entries)

end Document

/-- The table between braces that some values make up. -/
def recordOf? (values : List (List String × String × Toml)) : Option Toml :=
  (Document.ofLines? (values.map fun (dots, name, value) => .value dots name value)).map .record

end Toml

end SelectorTutorial
