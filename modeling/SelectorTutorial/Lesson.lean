import SelectorTutorial.Example

/-! Lessons, and their JSON form. -/

namespace SelectorTutorial

/-- The name by which the backend knows a lesson. -/
structure Lesson.Id where
  /-- The name as text. -/
  text : String
deriving DecidableEq, Repr

/-- A lesson.  The list of all lessons leaves out most of it, which then is empty. -/
structure Lesson where
  /-- The name by which the backend knows it. -/
  id : Lesson.Id
  /-- The title shown. -/
  title : String
  /-- What is to be selected. -/
  goal : String := ""
  /-- The selector that the editor starts with. -/
  startingSelection : String := ""
  /-- A selector that reaches the goal. -/
  solution : String := ""
  /-- The example that is compiled as the lesson's model. -/
  model : Option Example.Id := none
  /-- Source text shown with the lesson. -/
  snippet : String := ""
  /-- Remarks. -/
  notes : List String := []
  /-- Hints towards the goal. -/
  hints : List String := []
deriving DecidableEq, Repr

namespace Lesson

/-- An id is written as its text. -/
def Id.toJson (id : Id) : Json := .text id.text

/-- An id is any text. -/
def Id.ofJson? (json : Json) : Option Id := json.text?.map Id.mk

/-- The fields of a lesson in the order of their declaration. -/
def fields : List String :=
  ["id", "title", "goal", "startingSelection", "solution", "model", "snippet", "notes", "hints"]

/-- The JSON form of a lesson; a missing model is written as null. -/
def toJson (l : Lesson) : Json :=
  .object [
    ("id", l.id.toJson),
    ("title", .text l.title),
    ("goal", .text l.goal),
    ("startingSelection", .text l.startingSelection),
    ("solution", .text l.solution),
    ("model", .ofOption Example.Id.toJson l.model),
    ("snippet", .text l.snippet),
    ("notes", .ofTexts l.notes),
    ("hints", .ofTexts l.hints)]

/-- Reads a lesson; only its id and its title have to be there. -/
def ofJson? (json : Json) : Option Lesson := do
  let members ← json.record? fields
  return {
    id := ← Json.required "id" Id.ofJson? members
    title := ← Json.required "title" Json.text? members
    goal := ← Json.defaulted "goal" Json.text? "" members
    startingSelection := ← Json.defaulted "startingSelection" Json.text? "" members
    solution := ← Json.defaulted "solution" Json.text? "" members
    model := ← Json.optional "model" Example.Id.ofJson? members
    snippet := ← Json.defaulted "snippet" Json.text? "" members
    notes := ← Json.defaulted "notes" (Json.listOf? Json.text?) [] members
    hints := ← Json.defaulted "hints" (Json.listOf? Json.text?) [] members }

end Lesson

end SelectorTutorial
