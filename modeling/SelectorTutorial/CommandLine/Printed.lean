import SelectorTutorial.Number.Shortest
import SelectorTutorial.Session.LessonPage
import SelectorTutorial.Viewport.Frame

/-! What the command line prints of lessons, models, selections and pictures. -/

namespace SelectorTutorial

namespace Printed

/-- A number with blanks before it where it has one digit. -/
def place (n : Nat) : String :=
  if n < 10 then " " ++ toString n else toString n

/-- A lesson in the list of all lessons. -/
def listedLesson (number : Nat) (l : Lesson) : List String :=
  [place number ++ ". " ++ l.id.text ++ "  " ++ l.title] ++
    if l.goal = "" then [] else ["    " ++ l.goal]

/-- All lessons, numbered from one. -/
def lessons (list : List Lesson) : List String :=
  (list.zipIdx 1).flatMap fun (l, number) => listedLesson number l

/-- All examples. -/
def examples (list : List Example) : List String :=
  list.map fun e => e.id.text ++ "  " ++ e.name ++ "  [" ++ e.tagLine ++ "]"

/-- The lesson beside another one. -/
def neighbor (label : String) (order : List Lesson.Id) (id : Lesson.Id) (direction : Direction) :
    List String :=
  ((Lesson.neighbor order id direction).map fun beside =>
    label ++ ": " ++ (Route.lesson beside).path).toList

/-- The page of a lesson, if one is shown. -/
def lessonPage (page : LessonPage) (shared : Snapshot) : List String :=
  match page.lesson with
  | none => []
  | some l =>
    let menu := shared.menu (.lesson l.id)
    let position := ((shared.lessonIndex l.id).map (· + 1)).getD 0
    [s!"[{menu.title}] {l.title} ({position}/{menu.lessons.length})", "goal: " ++ l.goal] ++
      (if l.snippet = "" then [] else ["\n" ++ l.snippet ++ "\n"]) ++
      l.notes.map ("note: " ++ ·) ++
      page.hints.map ("hint: " ++ ·) ++
      ["selector: " ++ page.selection] ++
      neighbor "prev" shared.order l.id .previous ++
      neighbor "next" shared.order l.id .next

/-- A shape that was reached. -/
def shape (s : Shape) : String :=
  "  " ++ s.kind.name ++ " " ++ s.id.text ++
    match s.hash with
    | some hash => " #" ++ toString hash.toInt
    | none => ""

/-- The result shown and the ones before it, if there is a result. -/
def selection (shared : Snapshot) (editor : String) : List String :=
  match shared.result with
  | none => []
  | some result =>
    [result.counts.describe] ++ result.items.map shape ++ ["history:"] ++
      shared.history.map fun e => "  " ++ e.summary ++ "  " ++ e.expressionOr editor

/-- Some numbers, each by its shortest text. -/
def numbers (list : List Binary64) : String :=
  "[" ++ ", ".intercalate (list.map Binary64.text) ++ "]"

/-- A model, and what was measured of it. -/
def model (m : Model) : List String :=
  ["model " ++ m.id.text] ++
    (m.measures.map fun measures =>
      "  area=" ++ measures.area.fixed 3 ++ " volume=" ++ measures.volume.fixed 3 ++
        " bbox=" ++ numbers measures.bbox).toList

/-- What is about to be drawn, if that is anything. -/
def pending (scene : Scene) : List String :=
  let frame := Frame.pending scene.layers
  if frame.isLoading then
    [s!"viewport: loading {frame.layers.length} layer(s), toggle with 'h': " ++
      scene.mode.toggleLabel]
  else []

/-- A layer of a picture. -/
def layer (l : RenderedLayer) : String :=
  "viewport: " ++ l.layer.role.label ++
    match l.state with
    | .ready mesh =>
      " color=" ++ l.layer.material.color.text ++ " opacity=" ++
        l.layer.material.opacity.twoPlaces ++ " bytes=" ++ toString mesh.bytes.length
    | .failed reason => " unavailable (" ++ reason ++ ")"
    | .loading => " loading"

/-- A picture. -/
def frame (f : Frame) : List String :=
  if f.layers.isEmpty then ["viewport: nothing to draw"] else f.layers.map layer

end Printed

end SelectorTutorial
