import SelectorTutorial.Lesson
import SelectorTutorial.Selection.Result
import SelectorTutorial.Selection.Request
import SelectorTutorial.Text.Blank
import SelectorTutorial.Upload

/-! What the bodies of requests and replies hold besides the values that have a name of their
own. -/

namespace SelectorTutorial

/-- The reply to a request for all lessons. -/
structure LessonList where
  /-- The lessons in the order in which they are taught. -/
  lessons : List Lesson
deriving DecidableEq, Repr

/-- The reply to a request for all examples. -/
structure ExampleList where
  /-- The examples. -/
  examples : List Example
deriving DecidableEq, Repr

/-- The reply to the question whether the backend is up. -/
structure Health where
  /-- What the backend says of itself. -/
  status : String
deriving DecidableEq, Repr

/-- What is to be compiled, as text. -/
structure CompileRequest where
  /-- Source text. -/
  source : Option String := none
  /-- A built-in example. -/
  asset : Option Example.Id := none
deriving DecidableEq, Repr

namespace LessonList

/-- The JSON form of a list of lessons. -/
def toJson (l : LessonList) : Json :=
  .object [("lessons", .list (l.lessons.map Lesson.toJson))]

/-- Reads a list of lessons. -/
def ofJson? (json : Json) : Option LessonList := do
  let members ← json.record? ["lessons"]
  return { lessons := ← Json.required "lessons" (Json.listOf? Lesson.ofJson?) members }

end LessonList

namespace ExampleList

/-- The JSON form of a list of examples. -/
def toJson (l : ExampleList) : Json :=
  .object [("examples", .list (l.examples.map Example.toJson))]

/-- Reads a list of examples. -/
def ofJson? (json : Json) : Option ExampleList := do
  let members ← json.record? ["examples"]
  return { examples := ← Json.required "examples" (Json.listOf? Example.ofJson?) members }

end ExampleList

namespace Health

/-- The backend is up when it says ok, in letters of either case. -/
def isOk (h : Health) : Bool :=
  Text.sameIgnoringCase h.status "ok"

/-- The JSON form of what the backend says of itself. -/
def toJson (h : Health) : Json :=
  .object [("status", .text h.status)]

/-- Reads what the backend says of itself. -/
def ofJson? (json : Json) : Option Health := do
  let members ← json.record? ["status"]
  return { status := ← Json.required "status" Json.text? members }

end Health

namespace CompileRequest

/-- The JSON form of a request to compile; what is missing is left out. -/
def toJson (r : CompileRequest) : Json :=
  .object (Json.memberIfSome "source" .text r.source ++
    Json.memberIfSome "asset" Example.Id.toJson r.asset)

/-- Reads a request to compile, each part of which may be missing or null. -/
def ofJson? (json : Json) : Option CompileRequest := do
  let members ← json.record? ["source", "asset"]
  return {
    source := ← Json.optional "source" Json.text? members
    asset := ← Json.optional "asset" Example.Id.ofJson? members }

end CompileRequest

/-- Where a model comes from. -/
inductive ModelSource where
  /-- Source text. -/
  | inline (source : String)
  /-- A built-in example. -/
  | example (id : Example.Id)
  /-- A file. -/
  | upload (file : Upload)
deriving DecidableEq, Repr

/-- The word for a source. -/
def ModelSource.kind : ModelSource → String
  | inline _ => "inline"
  | .example _ => "example"
  | upload _ => "upload"

/-- The body of a request. -/
inductive RequestBody where
  /-- Nothing. -/
  | empty
  /-- A JSON value. -/
  | json (value : Json)
  /-- A form whose one part is a file. -/
  | file (part : String) (upload : Upload)
deriving Repr

/-- The part of a form that a file to be compiled is sent as. -/
def filePart : String := "file"

/-- A source is sent as a JSON object with one member, or as a form with one file. -/
def ModelSource.body : ModelSource → RequestBody
  | inline source => .json (CompileRequest.toJson { source := some source })
  | .example id => .json (CompileRequest.toJson { asset := some id })
  | upload file => .file filePart file

end SelectorTutorial
