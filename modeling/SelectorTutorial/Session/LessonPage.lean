import SelectorTutorial.Navigation.Menu
import SelectorTutorial.Navigation.Neighbor
import SelectorTutorial.Navigation.Shortcut
import SelectorTutorial.Session.Catalog
import SelectorTutorial.Session.Panel
import SelectorTutorial.Session.Ticket
import SelectorTutorial.Viewport.Layer

/-! The page of a lesson: it loads a lesson with its model, and runs selectors against that
model. -/

namespace SelectorTutorial

/-- The page of a lesson. -/
structure LessonPage where
  /-- The lesson shown. -/
  lesson : Option Lesson := none
  /-- The selector in the editor. -/
  selection : String := ""
  /-- The model of the lesson. -/
  model : Option Model := none
  /-- Whether the solution is shown. -/
  showsSolution : Bool := false
  /-- How far the lesson is loaded. -/
  status : Panel := {}
  /-- How far the selector is run. -/
  selectionStatus : Panel := {}
  /-- The tickets of the calls of this page. -/
  tickets : Tickets := {}
deriving DecidableEq, Repr

namespace LessonPage

/-- The hint for a lesson that has none of its own. -/
def defaultHint : String :=
  "Think about the face orientation or property described in the goal."

/-- The hints of the lesson. -/
def hints (page : LessonPage) : List String :=
  match page.lesson with
  | some lesson => if lesson.hints.isEmpty then [defaultHint] else lesson.hints
  | none => [defaultHint]

/-- The solution of the lesson, while it is shown. -/
def visibleSolution (page : LessonPage) : Option String :=
  if page.showsSolution then page.lesson.map (·.solution) else none

/-- What can be asked of the page that may take a reply. -/
inductive Call where
  /-- To find the page for a path that may name no lesson. -/
  | resolveRoute (requested : Option Lesson.Id)
  /-- To show a lesson. -/
  | load (id : Lesson.Id)
  /-- To run the selector. -/
  | run
  /-- To do what a key stands for. -/
  | press (key : KeyPress)
deriving DecidableEq, Repr

/-- What a call of the page ends with. -/
inductive Result where
  /-- The page to go to, if there is one. -/
  | route (route : Option Route)
  /-- What loading came to, and the page to go to in place of a lesson that is not there. -/
  | loaded (outcome : Outcome) (redirect : Option Route)
  /-- What running a selector or changing the mode came to. -/
  | done (outcome : Outcome)
  /-- The key stands for nothing. -/
  | unbound
deriving DecidableEq, Repr

/-- What a call of the page waits for. -/
inductive Waiting where
  /-- The lessons, to find the first of them. -/
  | route
  /-- The lesson. -/
  | lesson (ticket : Ticket) (id : Lesson.Id)
  /-- The model of a lesson. -/
  | model (ticket : Ticket) (id : Lesson.Id) (lesson : Lesson) (source : Example.Id)
  /-- The lessons, to find one in place of a lesson that is not there. -/
  | redirect (ticket : Ticket) (id : Lesson.Id) (cause : BackendError)
  /-- The result of a selector. -/
  | selection (ticket : Ticket) (request : Selection.Request)
deriving DecidableEq, Repr

/-- What the backend is asked for. -/
def Waiting.call : Waiting → BackendCall
  | route => .lessons
  | lesson _ id => .lesson id
  | model _ _ _ source => .compile (.example source)
  | redirect _ _ _ => .lessons
  | selection _ request => .select request

/-- The page and what it shares after a step of a call, and how far that call has come. -/
structure Step where
  /-- The page. -/
  page : LessonPage
  /-- What it shares. -/
  shared : Snapshot
  /-- How far the call has come. -/
  progress : Progress Waiting Result
deriving DecidableEq, Repr

/-- The page of the lesson that comes first. -/
def firstRoute (shared : Snapshot) : Option Route :=
  shared.firstLesson.map .lesson

/-- The page of the lesson that comes first, unless that is the one that is not there. -/
def redirectFrom (id : Lesson.Id) (shared : Snapshot) : Option Route :=
  (shared.firstLesson.filter (· != id)).map .lesson

/-- A lesson that was loaded takes the place of the one before, unless a newer one is on its way. -/
def finishLoad (now : Timestamp) (page : LessonPage) (shared : Snapshot) (ticket : Ticket)
    (lesson : Lesson) (model : Option Model) : Step :=
  if page.tickets.isCurrent ticket then
    { page := { page with
        lesson := some lesson
        selection := lesson.startingSelection
        model
        showsSolution := false
        status := page.status.succeed
        selectionStatus := {}
        -- A selection of the lesson before must not arrive any more.
        tickets := page.tickets.invalidate .selection }
      shared := (shared.apply now (.model model)).apply now (.result none)
      progress := .finished (.loaded .applied none) }
  else { page, shared, progress := .finished (.loaded .superseded none) }

/-- A lesson that could not be loaded leaves the one before in place. -/
def failLoad (page : LessonPage) (shared : Snapshot) (ticket : Ticket) (cause : BackendError)
    (redirect : Option Route) : Step :=
  if page.tickets.isCurrent ticket then
    let message := cause.shownIn .loadLesson
    { page := { page with status := page.status.fail message }
      shared
      progress := .finished (.loaded (.failed message) redirect) }
  else { page, shared, progress := .finished (.loaded .superseded none) }

/-- When a lesson is not there, the lessons are needed to find another one. -/
def seekRedirect (page : LessonPage) (shared : Snapshot) (ticket : Ticket) (id : Lesson.Id)
    (cause : BackendError) : Step :=
  if !cause.isNotFound then failLoad page shared ticket cause none
  else if shared.lessons.isEmpty then
    { page, shared, progress := .waiting (.redirect ticket id cause) }
  else failLoad page shared ticket cause (redirectFrom id shared)

/-- Begins to load a lesson. -/
def startLoad (page : LessonPage) (shared : Snapshot) (id : Lesson.Id) : Step :=
  let (ticket, tickets) := page.tickets.issue .lesson
  { page := { page with status := page.status.begin, tickets }
    shared
    progress := .waiting (.lesson ticket id) }

/-- Begins to run the selector, unless there is none or no model to run it against. -/
def startRun (page : LessonPage) (shared : Snapshot) : Step :=
  let expression := Text.trim page.selection
  match page.model with
  | none => { page, shared, progress := .finished (.done .skipped) }
  | some model =>
    if expression = "" then { page, shared, progress := .finished (.done .skipped) }
    else
      let (ticket, tickets) := page.tickets.issue .selection
      { page := { page with selectionStatus := page.selectionStatus.begin, tickets }
        shared
        progress := .waiting (.selection ticket (.of model.id expression none)) }

/-- Begins a call of the page. -/
def start (now : Timestamp) (page : LessonPage) (shared : Snapshot) : Call → Step
  | .resolveRoute (some _) => { page, shared, progress := .finished (.route none) }
  | .resolveRoute none =>
    if shared.lessons.isEmpty then { page, shared, progress := .waiting .route }
    else { page, shared, progress := .finished (.route (firstRoute shared)) }
  | .load id => startLoad page shared id
  | .run => startRun page shared
  | .press key =>
    match key.shortcut with
    | some .runSelection => startRun page shared
    | some .toggleMode =>
      { page, shared := shared.apply now .mode, progress := .finished (.done .applied) }
    | none => { page, shared, progress := .finished .unbound }

/-- Goes on with a call of the page once the backend has answered. -/
def resume (now : Timestamp) (answers : Answers) (page : LessonPage) (shared : Snapshot) :
    Waiting → Step
  | .route =>
    match Catalog.takeLessons now answers shared with
    | .ok shared => { page, shared, progress := .finished (.route (firstRoute shared)) }
    | .error error =>
      { page := { page with status := page.status.fail (error.shownIn .catalog) }
        shared
        progress := .finished (.route none) }
  | .lesson ticket id =>
    match answers (.lesson id) with
    | .error error => seekRedirect page shared ticket id error
    | .ok (lesson : Lesson) =>
      match lesson.model with
      | some source => { page, shared, progress := .waiting (.model ticket id lesson source) }
      | none => finishLoad now page shared ticket lesson none
  | .model ticket id lesson source =>
    match answers (.compile (.example source)) with
    | .error error => seekRedirect page shared ticket id error
    | .ok model => finishLoad now page shared ticket lesson (some model)
  | .redirect ticket id cause =>
    match Catalog.takeLessons now answers shared with
    | .ok shared => failLoad page shared ticket cause (redirectFrom id shared)
    | .error _ => failLoad page shared ticket cause none
  | .selection ticket request =>
    if page.tickets.isCurrent ticket then
      match answers (.select request) with
      | .ok result =>
        { page := { page with selectionStatus := page.selectionStatus.succeed }
          shared := shared.apply now (.result (some result))
          progress := .finished (.done .applied) }
      | .error error =>
        let message := error.shownIn .selection
        { page := { page with selectionStatus := page.selectionStatus.fail message }
          shared
          progress := .finished (.done (.failed message)) }
    else { page, shared, progress := .finished (.done .superseded) }

/-- Puts a selector into the editor. -/
def setSelection (page : LessonPage) (text : String) : LessonPage :=
  { page with selection := text }

/-- Puts the selector that the lesson starts with into the editor. -/
def resetSelection (page : LessonPage) : LessonPage :=
  match page.lesson with
  | some lesson => { page with selection := lesson.startingSelection }
  | none => page

/-- Shows the solution or hides it. -/
def toggleSolution (page : LessonPage) : LessonPage :=
  { page with showsSolution := !page.showsSolution }

/-- The page of the lesson beside the one shown. -/
def neighborRoute (page : LessonPage) (shared : Snapshot) (direction : Direction) : Option Route :=
  page.lesson.bind fun lesson => (Lesson.neighbor shared.order lesson.id direction).map .lesson

/-- What the page draws. -/
def scene (page : LessonPage) (shared : Snapshot) : Scene :=
  .of page.model shared.result shared.mode

end LessonPage

end SelectorTutorial
