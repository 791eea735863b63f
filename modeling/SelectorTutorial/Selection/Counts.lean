import SelectorTutorial.Json.Record

/-! How many shapes of each kind a selection reached. -/

namespace SelectorTutorial

/-- The number of faces, edges and vertices that a selection reached. -/
structure Selection.Counts where
  /-- Faces. -/
  faces : UInt32 := 0
  /-- Edges. -/
  edges : UInt32 := 0
  /-- Vertices. -/
  vertices : UInt32 := 0
deriving DecidableEq, Repr

namespace Selection.Counts

/-- The largest count. -/
def largest : Nat := UInt32.size - 1

/-- The sum of the counts, which stays at the largest count once it gets there. -/
def total (c : Counts) : Nat :=
  min largest (c.faces.toNat + c.edges.toNat + c.vertices.toNat)

/-- The counts in short. -/
def compact (c : Counts) : String :=
  s!"F:{c.faces} E:{c.edges} V:{c.vertices}"

/-- The counts in words. -/
def describe (c : Counts) : String :=
  s!"Faces: {c.faces} · Edges: {c.edges} · Vertices: {c.vertices}"

/-- A count is a JSON integer from zero up to the largest count. -/
def count? (json : Json) : Option UInt32 :=
  json.int?.bind fun i => if 0 ≤ i ∧ i ≤ largest then some (.ofNat i.toNat) else none

/-- The fields of the counts in the order of their declaration. -/
def fields : List String := ["faces", "edges", "vertices"]

/-- The JSON form of counts. -/
def toJson (c : Counts) : Json :=
  .object [
    ("faces", .ofNat c.faces.toNat),
    ("edges", .ofNat c.edges.toNat),
    ("vertices", .ofNat c.vertices.toNat)]

/-- Reads counts; a missing one is zero. -/
def ofJson? (json : Json) : Option Counts := do
  let members ← json.record? fields
  return {
    faces := ← Json.defaulted "faces" count? 0 members
    edges := ← Json.defaulted "edges" count? 0 members
    vertices := ← Json.defaulted "vertices" count? 0 members }

end Selection.Counts

end SelectorTutorial
