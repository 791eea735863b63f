import SelectorTutorial.Lesson
import SelectorTutorial.Text.Blank

/-! The pages, and the paths under which they are found. -/

namespace SelectorTutorial

/-- A page. -/
inductive Route where
  /-- The page to start from. -/
  | overview
  /-- The page of one lesson, or of the lessons as such. -/
  | lessons (id : Option Lesson.Id)
  /-- The page to try things out on. -/
  | playground
deriving DecidableEq, Repr

namespace Route

/-- A query or a fragment ends a path. -/
def endsPath (c : Char) : Bool :=
  c == '?' || c == '#'

/-- The parts of a path that are not empty. -/
def parts (path : String) : List String :=
  ((Text.pieces (· == '/') (path.toList.takeWhile fun c => !endsPath c)).filter (· != [])).map
    .ofList

/-- The page that some parts of a path lead to; those that lead nowhere lead to the overview. -/
def ofParts : List String → Route
  | ["lessons"] => lessons none
  | ["lessons", id] => lessons (some ⟨id⟩)
  | ["playground"] => playground
  | _ => overview

/-- The page that a path leads to. -/
def ofPath (path : String) : Route :=
  ofParts (parts path)

/-- The path of a page; the id of a lesson stands in it as it is. -/
def path : Route → String
  | overview => "/"
  | lessons none => "/lessons"
  | lessons (some id) => "/lessons/" ++ id.text
  | playground => "/playground"

/-- The title of a page. -/
def title : Route → String
  | overview => "Overview"
  | lessons _ => "Lessons"
  | playground => "Playground"

/-- The page of a lesson. -/
def lesson (id : Lesson.Id) : Route :=
  lessons (some id)

end Route

end SelectorTutorial
