import SelectorTutorial.Json.Record

/-! Compiled models, and their JSON form. -/

namespace SelectorTutorial

/-- The name by which the backend knows a compiled model. -/
structure Model.Id where
  /-- The name as text. -/
  text : String
deriving DecidableEq, Repr

/-- What was measured of a model. -/
structure Model.Measures where
  /-- The smallest and then the largest coordinate on each of the three axes. -/
  bbox : List Binary64 := []
  /-- The surface area. -/
  area : Binary64 := .zero
  /-- The volume. -/
  volume : Binary64 := .zero
deriving DecidableEq, Repr

/-- A model that the backend has compiled. -/
structure Model where
  /-- The name by which the backend knows it. -/
  id : Model.Id
  /-- Where its mesh is found. -/
  meshUrl : String
  /-- Its measures, if the backend gave any. -/
  measures : Option Model.Measures := none
deriving DecidableEq, Repr

namespace Model

/-- An id is written as its text. -/
def Id.toJson (id : Id) : Json := .text id.text

/-- An id is any text. -/
def Id.ofJson? (json : Json) : Option Id := json.text?.map Id.mk

namespace Measures

/-- The fields of the measures in the order of their declaration. -/
def fields : List String := ["bbox", "area", "volume"]

/-- The JSON form of measures. -/
def toJson (m : Measures) : Json :=
  .object [
    ("bbox", .list (m.bbox.map .ofBinary64)),
    ("area", .ofBinary64 m.area),
    ("volume", .ofBinary64 m.volume)]

/-- Reads measures, each of which may be missing. -/
def ofJson? (json : Json) : Option Measures := do
  let members ← json.record? fields
  return {
    bbox := ← Json.defaulted "bbox" (Json.listOf? Json.binary64?) [] members
    area := ← Json.defaulted "area" Json.binary64? .zero members
    volume := ← Json.defaulted "volume" Json.binary64? .zero members }

/-- All numbers measured are finite. -/
def IsFinite (m : Measures) : Prop :=
  (∀ x ∈ m.bbox, x.isFinite) ∧ m.area.isFinite ∧ m.volume.isFinite

end Measures

/-- The fields of a model in the order of their declaration. -/
def fields : List String := ["modelId", "meshUrl", "meta"]

/-- The JSON form of a model; missing measures are left out. -/
def toJson (m : Model) : Json :=
  .object ([("modelId", m.id.toJson), ("meshUrl", .text m.meshUrl)] ++
    Json.memberIfSome "meta" Measures.toJson m.measures)

/-- Reads a model; its measures may be missing or null. -/
def ofJson? (json : Json) : Option Model := do
  let members ← json.record? fields
  return {
    id := ← Json.required "modelId" Id.ofJson? members
    meshUrl := ← Json.required "meshUrl" Json.text? members
    measures := ← Json.optional "meta" Measures.ofJson? members }

end Model

end SelectorTutorial
