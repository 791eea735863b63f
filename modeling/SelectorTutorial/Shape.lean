import SelectorTutorial.Json.Record

/-! The shapes of a model that a selection can reach. -/

namespace SelectorTutorial

/-- The name by which the backend knows a shape. -/
structure Shape.Id where
  /-- The name as text. -/
  text : String
deriving DecidableEq, Repr

/-- What a shape is. -/
inductive Shape.Kind where
  | face
  | edge
  | vertex
  | wire
  | shell
  | solid
  | compound
  /-- Any kind that is not named here. -/
  | other
deriving DecidableEq, Repr

/-- A shape that a selection reached. -/
structure Shape where
  /-- The name by which the backend knows it. -/
  id : Shape.Id
  /-- What it is. -/
  kind : Shape.Kind
  /-- A number that tells it from the other shapes of its model. -/
  hash : Option Int64 := none
deriving DecidableEq, Repr

namespace Shape

/-- An id is written as its text. -/
def Id.toJson (id : Id) : Json := .text id.text

/-- An id is any text. -/
def Id.ofJson? (json : Json) : Option Id := json.text?.map Id.mk

namespace Kind

/-- The word for a kind. -/
def name : Kind → String
  | face => "face"
  | edge => "edge"
  | vertex => "vertex"
  | wire => "wire"
  | shell => "shell"
  | solid => "solid"
  | compound => "compound"
  | other => "other"

/-- The kind that a word names; a word that names none stands for some other kind. -/
def ofName : String → Kind
  | "face" => face
  | "edge" => edge
  | "vertex" => vertex
  | "wire" => wire
  | "shell" => shell
  | "solid" => solid
  | "compound" => compound
  | _ => other

/-- A kind is written as its word. -/
def toJson (k : Kind) : Json := .text k.name

/-- A kind is a word, or an object whose one member has that word for a name and null for a
value. -/
def ofJson? : Json → Option Kind
  | .text word => some (ofName word)
  | .object [(word, .null)] => some (ofName word)
  | _ => none

end Kind

/-- A hash is a JSON integer that fits 64 bits with a sign. -/
def hash? (json : Json) : Option Int64 :=
  json.int?.bind fun i =>
    if Int64.minValue.toInt ≤ i ∧ i ≤ Int64.maxValue.toInt then some (.ofInt i) else none

/-- The fields of a shape in the order of their declaration. -/
def fields : List String := ["id", "type", "hash"]

/-- The JSON form of a shape; a missing hash is left out. -/
def toJson (s : Shape) : Json :=
  .object ([("id", s.id.toJson), ("type", s.kind.toJson)] ++
    Json.memberIfSome "hash" (fun h => .ofInt h.toInt) s.hash)

/-- Reads a shape; its hash may be missing or null. -/
def ofJson? (json : Json) : Option Shape := do
  let members ← json.record? fields
  return {
    id := ← Json.required "id" Id.ofJson? members
    kind := ← Json.required "type" Kind.ofJson? members
    hash := ← Json.optional "hash" hash? members }

end Shape

end SelectorTutorial
