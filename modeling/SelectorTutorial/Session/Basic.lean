import SelectorTutorial.Session.LessonPage
import SelectorTutorial.Session.Playground

/-!
A session: both pages over what they share, and the calls that were started on them.  Replies may
arrive in any order.
-/

namespace SelectorTutorial

/-- A call that may take a reply. -/
inductive Session.Call where
  /-- To have the lessons at hand. -/
  | ensureLessons
  /-- To have both lists at hand. -/
  | ensureCatalog
  /-- A call of the lesson page. -/
  | lesson (call : LessonPage.Call)
  /-- A call of the playground. -/
  | playground (call : Playground.Call)
deriving DecidableEq, Repr

/-- What a call waits for. -/
inductive Session.Waiting where
  /-- The lessons. -/
  | lessons
  /-- A list. -/
  | catalog (on : Catalog.Waiting)
  /-- What the lesson page waits for. -/
  | lesson (on : LessonPage.Waiting)
  /-- What the playground waits for. -/
  | playground (on : Playground.Waiting)
deriving DecidableEq, Repr

/-- What a call ends with. -/
inductive Session.Result where
  /-- The number of lessons at hand, or why there are none. -/
  | lessons (count : Except BackendError Nat)
  /-- What went wrong with the lists. -/
  | catalog (status : Catalog.Status)
  /-- What a call of the lesson page ends with. -/
  | lesson (result : LessonPage.Result)
  /-- What a call of the playground ends with. -/
  | playground (result : Playground.Result)

/-- A session. -/
structure Session where
  /-- What the pages share. -/
  shared : Snapshot := {}
  /-- The page of a lesson. -/
  lesson : LessonPage := {}
  /-- The playground. -/
  playground : Playground := {}
  /-- What each call waits for, in the order in which they were started, or nothing once it
  ended. -/
  calls : List (Option Session.Waiting) := []
deriving DecidableEq, Repr

namespace Session

/-- What the backend is asked for. -/
def Waiting.call : Waiting → BackendCall
  | lessons => .lessons
  | catalog on => on.call
  | lesson on => on.call
  | playground on => on.call

/-- What a call waits for, if it does. -/
def pending : Progress Waiting Result → Option Waiting
  | .waiting on => some on
  | .finished _ => none

/-- A session after a step of a call, and how far that call has come. -/
abbrev Step := Session × Progress Waiting Result

/-- A step of the lesson page is one of the session. -/
def withLesson (s : Session) (step : LessonPage.Step) : Step :=
  ({ s with lesson := step.page, shared := step.shared }, step.progress.map .lesson .lesson)

/-- A step of the playground is one of the session. -/
def withPlayground (s : Session) (step : Playground.Step) : Step :=
  ({ s with playground := step.page, shared := step.shared },
    step.progress.map .playground .playground)

/-- The first step of a call. -/
def begin (now : Timestamp) (s : Session) : Call → Step
  | .ensureLessons =>
    if s.shared.lessons.isEmpty then (s, .waiting .lessons)
    else (s, .finished (.lessons (.ok s.shared.lessons.length)))
  | .ensureCatalog => (s, (Catalog.start s.shared).map .catalog .catalog)
  | .lesson call => s.withLesson (s.lesson.start now s.shared call)
  | .playground call => s.withPlayground (s.playground.start s.shared call)

/-- The next step of a call, once the backend has answered. -/
def goOn (now : Timestamp) (answers : Answers) (s : Session) : Waiting → Step
  | .lessons =>
    match Catalog.takeLessons now answers s.shared with
    | .ok shared => ({ s with shared }, .finished (.lessons (.ok shared.lessons.length)))
    | .error error => (s, .finished (.lessons (.error error)))
  | .catalog on =>
    let (shared, progress) := Catalog.resume now answers s.shared on
    ({ s with shared }, progress.map .catalog .catalog)
  | .lesson on => s.withLesson (s.lesson.resume now answers s.shared on)
  | .playground on => s.withPlayground (s.playground.resume now answers s.shared on)

/-- Starts a call, which gets the next number. -/
def start (now : Timestamp) (s : Session) (call : Call) : Step :=
  let (s, progress) := s.begin now call
  ({ s with calls := s.calls ++ [pending progress] }, progress)

/-- What the call with some number waits for. -/
def waiting? (s : Session) (number : Nat) : Option Waiting :=
  (s.calls[number]?).join

/-- Takes the call with some number, which waits for something, one step on. -/
def answer (now : Timestamp) (answers : Answers) (s : Session) (number : Nat) (on : Waiting) :
    Step :=
  let (s, progress) := s.goOn now answers on
  ({ s with calls := s.calls.set number (pending progress) }, progress)

/-- What can be done to a session at once. -/
inductive Edit where
  /-- To put a selector into the editor of the lesson page. -/
  | setSelection (text : String)
  /-- To put the selector that the lesson starts with into the editor. -/
  | resetSelection
  /-- To show the solution or to hide it. -/
  | toggleSolution
  /-- To let go of what was selected on the playground. -/
  | clearSelection
  /-- To change what was filled in on the playground. -/
  | form (change : Form → Form)
  /-- To change what the pages share. -/
  | share (change : Snapshot.Change)

/-- A session after an edit. -/
def edit (now : Timestamp) (s : Session) : Edit → Session
  | .setSelection text => { s with lesson := s.lesson.setSelection text }
  | .resetSelection => { s with lesson := s.lesson.resetSelection }
  | .toggleSolution => { s with lesson := s.lesson.toggleSolution }
  | .clearSelection =>
    { s with
      playground := s.playground.clearSelection
      shared := s.shared.apply now (.result none) }
  | .form change => { s with playground := s.playground.edit change }
  | .share change => { s with shared := s.shared.apply now change }

/-- How often a call waits at most. -/
def mostWaits : Nat := 3

/-- What can happen to a session. -/
inductive Event where
  /-- A call is started. -/
  | call (call : Call)
  /-- Something is edited. -/
  | edit (edit : Edit)
  /-- The backend answers the call with some number. -/
  | arrival (number : Nat) (answers : Answers)

/-- A session after an event, and how far the call has come that the event was about. -/
structure Aftermath where
  /-- The session. -/
  session : Session
  /-- The number of the call and how far it has come. -/
  call : Option (Nat × Progress Waiting Result) := none

/-- What comes of an event; an answer for a call that does not wait for one is dropped. -/
def step (now : Timestamp) (s : Session) : Event → Aftermath
  | .call call =>
    let (next, progress) := s.start now call
    { session := next, call := some (s.calls.length, progress) }
  | .edit edit => { session := s.edit now edit }
  | .arrival number answers =>
    match s.waiting? number with
    | some on =>
      let (next, progress) := s.answer now answers number on
      { session := next, call := some (number, progress) }
    | none => { session := s }

end Session

end SelectorTutorial
