import SelectorTutorial.Selection.Counts
import SelectorTutorial.Shape

/-! What a selector reached. -/

namespace SelectorTutorial

/-- What a selector reached. -/
structure Selection.Result where
  /-- The selector that was run. -/
  expression : String := ""
  /-- How many shapes it reached. -/
  counts : Selection.Counts := {}
  /-- The shapes themselves. -/
  items : List Shape := []
  /-- Where a mesh of the shapes is found, if there is one. -/
  previewMeshUrl : Option String := none
deriving DecidableEq, Repr

namespace Selection.Result

/-- The fields of a result in the order of their declaration. -/
def fields : List String := ["expression", "counts", "items", "previewMeshUrl"]

/-- The JSON form of a result; a missing preview is left out. -/
def toJson (r : Result) : Json :=
  .object ([
    ("expression", .text r.expression),
    ("counts", r.counts.toJson),
    ("items", .list (r.items.map Shape.toJson))] ++
    Json.memberIfSome "previewMeshUrl" .text r.previewMeshUrl)

/-- Reads a result, all of which may be missing. -/
def ofJson? (json : Json) : Option Result := do
  let members ← json.record? fields
  return {
    expression := ← Json.defaulted "expression" Json.text? "" members
    counts := ← Json.defaulted "counts" Counts.ofJson? {} members
    items := ← Json.defaulted "items" (Json.listOf? Shape.ofJson?) [] members
    previewMeshUrl := ← Json.optional "previewMeshUrl" Json.text? members }

end Selection.Result

end SelectorTutorial
