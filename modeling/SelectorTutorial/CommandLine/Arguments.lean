/-! What can be written on the command line, and what it asks for. -/

namespace SelectorTutorial

/-- How to show a lesson. -/
structure LessonOptions where
  /-- The lesson; the first one if none is named. -/
  id : Option String := none
  /-- The selector in place of the one that the lesson starts with. -/
  select : Option String := none
  /-- Whether the selector is run. -/
  run : Bool := false
  /-- Whether the solution is shown. -/
  showSolution : Bool := false
  /-- Whether the selected shapes are drawn alone. -/
  highlightOnly : Bool := false
deriving DecidableEq, Repr

/-- What to compile, and what to select of it. -/
structure PlaygroundOptions where
  /-- Source text. -/
  source : Option String := none
  /-- The path of a file. -/
  file : Option String := none
  /-- A built-in example. -/
  example? : Option String := none
  /-- The selector. -/
  selection : Option String := none
  /-- The smallest area of a face. -/
  minArea : Option String := none
  /-- The largest area of a face. -/
  maxArea : Option String := none
  /-- The smallest length of an edge. -/
  minLength : Option String := none
  /-- The largest length of an edge. -/
  maxLength : Option String := none
  /-- Whether the selected shapes are drawn alone. -/
  highlightOnly : Bool := false
deriving DecidableEq, Repr

/-- What is to be done. -/
inductive Command where
  | health
  | lessons
  | examples
  | lesson (options : LessonOptions)
  | playground (options : PlaygroundOptions)
deriving DecidableEq, Repr

/-- All that was written on the command line. -/
structure Arguments where
  /-- The base of the backend. -/
  apiBase : Option String := none
  /-- The path of the file with the settings. -/
  config : Option String := none
  /-- What is to be done. -/
  command : Command
deriving DecidableEq, Repr

namespace Arguments

/-- Why there is nothing to be done. -/
inductive Stop where
  /-- Help was asked for. -/
  | help
  /-- The command line makes no sense. -/
  | misuse
deriving DecidableEq, Repr

/-- What an option takes. -/
inductive Kind where
  /-- Nothing. -/
  | flag
  /-- Any text. -/
  | text
  /-- A path, which is not empty. -/
  | path
deriving DecidableEq, Repr

/-- What may be written after the name of the program or of a command. -/
structure Place where
  /-- The options and what they take. -/
  options : List (String × Kind)
  /-- How many other arguments there may be. -/
  others : Nat := 0
  /-- The commands that may follow. -/
  commands : List String := []

/-- What was written in one place. -/
structure Written where
  /-- The options, with what was given to them. -/
  options : List (String × String) := []
  /-- The other arguments. -/
  others : List String := []
  /-- The command that followed, and what was written after it. -/
  command : Option (String × List String) := none
deriving DecidableEq, Repr

/-- What is written before a character, and what after it if it is there. -/
def splitAt (mark : Char) (cs : List Char) : String × Option String :=
  let name := cs.takeWhile (· != mark)
  match cs.drop name.length with
  | [] => (.ofList name, none)
  | _ :: value => (.ofList name, some (.ofList value))

/-- A text that starts with a dash and goes on looks like an option. -/
def looksLikeOption (arg : String) : Bool :=
  match arg.toList with
  | '-' :: _ :: _ => true
  | _ => false

namespace Written

/-- What was given to an option. -/
def value? (w : Written) (name : String) : Option String :=
  (w.options.find? (·.1 == name)).map (·.2)

/-- Whether a flag was set. -/
def has (w : Written) (name : String) : Bool :=
  (w.value? name).isSome

/-- An option is given once, and a path has to be one. -/
def give (w : Written) (kind : Kind) (name value : String) : Except Stop Written :=
  if w.has name ∨ (kind = .path ∧ value = "") then .error .misuse
  else .ok { w with options := w.options ++ [(name, value)] }

/-- Another argument, for which there has to be room. -/
def giveOther (w : Written) (place : Place) (arg : String) : Except Stop Written :=
  if w.others.length < place.others then .ok { w with others := w.others ++ [arg] }
  else .error .misuse

end Written

/-- What an option of a place takes. -/
def Place.kind? (place : Place) (name : String) : Option Kind :=
  (place.options.find? (·.1 == name)).map (·.2)

/-- Reads what is written in a place, up to the command that follows if there may be one. -/
def read (place : Place) (w : Written) : List String → Except Stop Written
  | [] => .ok w
  | arg :: rest =>
    if place.commands.contains arg then .ok { w with command := some (arg, rest) }
    else match arg.toList with
    | ['-', '-'] => rest.foldlM (fun w arg => w.giveOther place arg) w
    | '-' :: '-' :: cs =>
      let (name, attached) := splitAt '=' cs
      if name = "help" then .error (if attached.isNone then .help else .misuse)
      else match place.kind? name, attached with
        | none, _ => .error .misuse
        | some .flag, some _ => .error .misuse
        | some .flag, none =>
          match w.give .flag name "" with
          | .ok w => read place w rest
          | .error stop => .error stop
        | some kind, some value =>
          match w.give kind name value with
          | .ok w => read place w rest
          | .error stop => .error stop
        | some kind, none =>
          match rest with
          | [] => .error .misuse
          | value :: rest =>
            if looksLikeOption value then .error .misuse
            else match w.give kind name value with
              | .ok w => read place w rest
              | .error stop => .error stop
    | '-' :: 'h' :: _ => .error .help
    | '-' :: _ :: _ => .error .misuse
    | _ =>
      match w.giveOther place arg with
      | .ok w => read place w rest
      | .error stop => .error stop

/-- The options that may be given before a command as well as after it. -/
def everywhere : List (String × Kind) := [("api-base", .text), ("config", .path)]

/-- What may be written after the name of the program. -/
def start : Place where
  options := everywhere
  commands := ["health", "lessons", "examples", "lesson", "playground", "help"]

/-- What may be written after a command that takes nothing. -/
def plain : Place where
  options := everywhere

/-- What may be written to show a lesson. -/
def lesson : Place where
  options := everywhere ++
    [("select", .text), ("run", .flag), ("show-solution", .flag), ("highlight-only", .flag)]
  others := 1

/-- What may be written to compile something. -/
def playground : Place where
  options := everywhere ++ [
    ("source", .text), ("file", .path), ("example", .text), ("selection", .text),
    ("min-area", .text), ("max-area", .text), ("min-length", .text), ("max-length", .text),
    ("highlight-only", .flag)]

/-- How to show a lesson. -/
def lessonOptions (w : Written) : LessonOptions where
  id := w.others.head?
  select := w.value? "select"
  run := w.has "run"
  showSolution := w.has "show-solution"
  highlightOnly := w.has "highlight-only"

/-- What to compile, of which only one thing can be named. -/
def playgroundOptions (w : Written) : Except Stop PlaygroundOptions :=
  let named := ["source", "file", "example"].filter w.has
  if 1 < named.length then .error .misuse
  else .ok {
    source := w.value? "source"
    file := w.value? "file"
    example? := w.value? "example"
    selection := w.value? "selection"
    minArea := w.value? "min-area"
    maxArea := w.value? "max-area"
    minLength := w.value? "min-length"
    maxLength := w.value? "max-length"
    highlightOnly := w.has "highlight-only" }

/-- What is to be done, with the options given after the command. -/
def commandOf (name : String) (rest : List String) : Except Stop (Command × Written) :=
  match name with
  | "health" => (read plain {} rest).map (.health, ·)
  | "lessons" => (read plain {} rest).map (.lessons, ·)
  | "examples" => (read plain {} rest).map (.examples, ·)
  | "lesson" => (read lesson {} rest).map fun w => (.lesson (lessonOptions w), w)
  | "playground" => do
    let w ← read playground {} rest
    return (.playground (← playgroundOptions w), w)
  | _ =>
    -- Help may be asked for on one command.
    if rest.isEmpty ∨ (rest.length = 1 ∧ rest.all start.commands.contains) then .error .help
    else .error .misuse

/-- Reads the command line.  What is given after a command counts more than what is given before. -/
def ofList (args : List String) : Except Stop Arguments := do
  let before ← read start {} args
  match before.command with
  | none => .error .misuse
  | some (name, rest) =>
    let (command, after) ← commandOf name rest
    return {
      apiBase := (after.value? "api-base").or (before.value? "api-base")
      config := (after.value? "config").or (before.value? "config")
      command }

/-- What is told to someone who asks for help. -/
def help : List String := [
  "CadQuery selector tutorial",
  "",
  "Usage: cq-tutorial [--api-base <BASE>] [--config <FILE>] <COMMAND>",
  "",
  "Commands:",
  "  health      Check that the backend is up",
  "  lessons     List lessons in tutorial order",
  "  examples    List built-in example models",
  "  lesson      Open a lesson (the first one when no id is given)",
  "  playground  Compile a model and run a selector against it"]

end Arguments

end SelectorTutorial
