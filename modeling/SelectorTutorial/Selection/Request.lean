import SelectorTutorial.Model

/-! What is asked of the backend when a selector is run. -/

namespace SelectorTutorial

/-- Bounds on the shapes that a selection may keep. -/
structure Selection.Filters where
  /-- The smallest area of a face. -/
  minArea : Option Binary64 := none
  /-- The largest area of a face. -/
  maxArea : Option Binary64 := none
  /-- The smallest length of an edge. -/
  minLength : Option Binary64 := none
  /-- The largest length of an edge. -/
  maxLength : Option Binary64 := none
deriving DecidableEq, Repr

/-- A selector to be run against a model. -/
structure Selection.Request where
  /-- The model. -/
  model : Model.Id
  /-- The selector. -/
  selection : String
  /-- Bounds on what is kept. -/
  filters : Option Selection.Filters := none
deriving DecidableEq, Repr

namespace Selection.Filters

/-- Filters without a bound let everything through. -/
def isEmpty (f : Filters) : Bool :=
  f.minArea.isNone && f.maxArea.isNone && f.minLength.isNone && f.maxLength.isNone

/-- The fields of filters in the order of their declaration. -/
def fields : List String := ["minArea", "maxArea", "minLength", "maxLength"]

/-- The JSON form of filters; a missing bound is left out. -/
def toJson (f : Filters) : Json :=
  .object (
    Json.memberIfSome "minArea" .ofBinary64 f.minArea ++
    Json.memberIfSome "maxArea" .ofBinary64 f.maxArea ++
    Json.memberIfSome "minLength" .ofBinary64 f.minLength ++
    Json.memberIfSome "maxLength" .ofBinary64 f.maxLength)

/-- Reads filters, each of which may be missing or null. -/
def ofJson? (json : Json) : Option Filters := do
  let members ← json.record? fields
  return {
    minArea := ← Json.optional "minArea" Json.binary64? members
    maxArea := ← Json.optional "maxArea" Json.binary64? members
    minLength := ← Json.optional "minLength" Json.binary64? members
    maxLength := ← Json.optional "maxLength" Json.binary64? members }

/-- All bounds are finite. -/
def IsFinite (f : Filters) : Prop :=
  (∀ x ∈ f.minArea, x.isFinite) ∧ (∀ x ∈ f.maxArea, x.isFinite) ∧
    (∀ x ∈ f.minLength, x.isFinite) ∧ (∀ x ∈ f.maxLength, x.isFinite)

end Selection.Filters

namespace Selection.Request

/-- A request never carries filters without a bound. -/
def of (model : Model.Id) (selection : String) (filters : Option Filters) : Request :=
  { model, selection, filters := filters.filter fun f => !f.isEmpty }

/-- The fields of a request in the order of their declaration. -/
def fields : List String := ["modelId", "selection", "filters"]

/-- The JSON form of a request; missing filters are left out. -/
def toJson (r : Request) : Json :=
  .object ([("modelId", r.model.toJson), ("selection", .text r.selection)] ++
    Json.memberIfSome "filters" Filters.toJson r.filters)

/-- Reads a request; its filters may be missing or null. -/
def ofJson? (json : Json) : Option Request := do
  let members ← json.record? fields
  return {
    model := ← Json.required "modelId" Model.Id.ofJson? members
    selection := ← Json.required "selection" Json.text? members
    filters := ← Json.optional "filters" Filters.ofJson? members }

end Selection.Request

end SelectorTutorial
