import SelectorTutorial.Backend.Bodies
import SelectorTutorial.Backend.Error
import SelectorTutorial.Json.Reader

/-! The calls that the backend answers, and the value that each of them is after. -/

namespace SelectorTutorial

/-- One thing that the backend can be asked for. -/
inductive BackendCall where
  /-- All lessons. -/
  | lessons
  /-- All examples. -/
  | examples
  /-- Whether the backend is up. -/
  | health
  /-- One lesson in full. -/
  | lesson (id : Lesson.Id)
  /-- A model. -/
  | compile (source : ModelSource)
  /-- What a selector reaches. -/
  | select (request : Selection.Request)
  /-- What is found at the URL of a mesh. -/
  | asset (url : String)
deriving DecidableEq, Repr

namespace BackendCall

/-- The kind of value that a call is after. -/
def Answer : BackendCall → Type
  | lessons => List Lesson
  | examples => List Example
  | health => Health
  | lesson _ => Lesson
  | compile _ => Model
  | select _ => Selection.Result
  | asset _ => Bytes

/-- The value that the body of a reply holds.  A result is one of the selector that was sent. -/
def decode? : (call : BackendCall) → Bytes → Option call.Answer
  | lessons, body => ((Json.ofBytes? body).bind LessonList.ofJson?).map (·.lessons)
  | examples, body => ((Json.ofBytes? body).bind ExampleList.ofJson?).map (·.examples)
  | health, body => (Json.ofBytes? body).bind Health.ofJson?
  | lesson _, body => (Json.ofBytes? body).bind Lesson.ofJson?
  | compile _, body => (Json.ofBytes? body).bind Model.ofJson?
  | select request, body =>
    ((Json.ofBytes? body).bind Selection.Result.ofJson?).map fun result =>
      { result with expression := request.selection }
  | asset _, body => some body

/-- Statuses that say that a request was understood and could not be met. -/
def isRejection (status : Nat) : Bool :=
  status == 400 || status == 422

/-- The status that says that nothing was found. -/
def notFoundStatus : Nat := 404

/--
The error that a refusal amounts to.  A missing lesson, model or asset is told by its name, and what
is wrong with a source or a selector is told as such.
-/
def refusal (call : BackendCall) (place : String) (status : Nat) (detail : Option String) :
    BackendError :=
  match call with
  | lesson id =>
    if status = notFoundStatus then .notFound ("lesson " ++ id.text) detail
    else .unexpectedStatus place status detail
  | compile _ =>
    if isRejection status ∨ status = notFoundStatus then .compileRejected detail
    else .unexpectedStatus place status detail
  | select request =>
    if status = notFoundStatus then .notFound ("model " ++ request.model.text) detail
    else if isRejection status then .selectionRejected detail
    else .unexpectedStatus place status detail
  | asset _ =>
    if status = notFoundStatus then .notFound ("asset " ++ place) detail
    else .unexpectedStatus place status detail
  | _ => .unexpectedStatus place status detail

end BackendCall

/-- What the backend says to each call that it may be asked. -/
abbrev Answers := (call : BackendCall) → Except BackendError call.Answer

/-- The answers when every call fails in the same way. -/
def Answers.failure (error : BackendError) : Answers := fun _ => .error error

end SelectorTutorial
