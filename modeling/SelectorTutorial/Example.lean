import SelectorTutorial.Json.Record

/-! Built-in example models, and their JSON form. -/

namespace SelectorTutorial

/-- The name by which the backend knows an example. -/
structure Example.Id where
  /-- The name as text. -/
  text : String
deriving DecidableEq, Repr

/-- A built-in example model. -/
structure Example where
  /-- The name by which the backend knows it. -/
  id : Example.Id
  /-- The name shown. -/
  name : String
  /-- What the example shows, in words. -/
  tags : List String := []
deriving DecidableEq, Repr

namespace Example

/-- An id is written as its text. -/
def Id.toJson (id : Id) : Json := .text id.text

/-- An id is any text. -/
def Id.ofJson? (json : Json) : Option Id := json.text?.map Id.mk

/-- The fields of an example in the order of their declaration. -/
def fields : List String := ["id", "name", "tags"]

/-- The JSON form of an example. -/
def toJson (e : Example) : Json :=
  .object [("id", e.id.toJson), ("name", .text e.name), ("tags", .ofTexts e.tags)]

/-- Reads an example; its tags may be missing. -/
def ofJson? (json : Json) : Option Example := do
  let members ← json.record? fields
  return {
    id := ← Json.required "id" Id.ofJson? members
    name := ← Json.required "name" Json.text? members
    tags := ← Json.defaulted "tags" (Json.listOf? Json.text?) [] members }

/-- The tags on one line. -/
def tagLine (e : Example) : String :=
  ", ".intercalate e.tags

end Example

end SelectorTutorial
