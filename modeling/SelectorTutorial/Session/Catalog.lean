import SelectorTutorial.Backend.Call
import SelectorTutorial.Session.Progress
import SelectorTutorial.Session.Snapshot

/-! The lists of all lessons and of all examples, which are fetched when they are first needed. -/

namespace SelectorTutorial

namespace Catalog

/-- What went wrong with either list. -/
structure Status where
  /-- What went wrong with the lessons. -/
  lessonsError : Option String := none
  /-- What went wrong with the examples. -/
  examplesError : Option String := none
deriving DecidableEq, Repr

/-- Nothing went wrong. -/
def Status.isComplete (s : Status) : Bool :=
  s.lessonsError.isNone && s.examplesError.isNone

/-- What is waited for. -/
inductive Waiting where
  /-- The lessons. -/
  | lessons
  /-- The examples, once it is known what went wrong with the lessons. -/
  | examples (lessonsError : Option String)
deriving DecidableEq, Repr

/-- What the backend is asked for. -/
def Waiting.call : Waiting → BackendCall
  | lessons => .lessons
  | examples _ => .examples

/-- What is shared once the lessons were fetched. -/
def takeLessons (now : Timestamp) (answers : Answers) (shared : Snapshot) :
    Except BackendError Snapshot :=
  (answers .lessons).map fun lessons => shared.apply now (.lessons lessons)

/-- The examples are fetched unless there are some, whatever became of the lessons. -/
def goOn (lessonsError : Option String) (shared : Snapshot) : Progress Waiting Status :=
  if shared.examples.isEmpty then .waiting (.examples lessonsError)
  else .finished { lessonsError }

/-- The lessons are fetched unless there are some, and then the examples. -/
def start (shared : Snapshot) : Progress Waiting Status :=
  if shared.lessons.isEmpty then .waiting .lessons else goOn none shared

/-- What the user is told when a list could not be fetched. -/
def shown (error : BackendError) : Option String :=
  some (error.shownIn .catalog)

/-- A list that was fetched is shared. -/
def resume (now : Timestamp) (answers : Answers) (shared : Snapshot) :
    Waiting → Snapshot × Progress Waiting Status
  | .lessons =>
    match takeLessons now answers shared with
    | .ok shared => (shared, goOn none shared)
    | .error error => (shared, goOn (shown error) shared)
  | .examples lessonsError =>
    match answers .examples with
    | .ok examples => (shared.apply now (.examples examples), .finished { lessonsError })
    | .error error => (shared, .finished { lessonsError, examplesError := shown error })

end Catalog

end SelectorTutorial
