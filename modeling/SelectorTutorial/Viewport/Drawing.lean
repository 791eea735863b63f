import SelectorTutorial.Viewport.Cache

/-!
A picture whose layers are loaded side by side.  Each layer takes two turns at most, one to look for
its mesh and one to take in what was fetched, and the turns of the others may fall in between.
-/

namespace SelectorTutorial

/-- How far a layer has come. -/
inductive Loading where
  /-- Its mesh is still to be looked for. -/
  | planned
  /-- Its mesh is not kept, and was asked for. -/
  | asked
  /-- It is known what mesh there is. -/
  | ended (mesh : Except Mesh.Fault Mesh)
deriving Repr

namespace Loading

/-- What the picture shows of a layer meanwhile. -/
def state : Loading → LayerState
  | planned => .loading
  | asked => .loading
  | ended mesh => .ofMesh mesh

/-- The next turn of a layer, with the viewport afterwards. -/
def turn (assets : Assets) (v : Viewport) (url : String) : Loading → Loading × Viewport
  | planned =>
    match v.find? url with
    | some mesh => (ended (.ok mesh), v)
    | none => (asked, v)
  | asked => (ended (Mesh.ofFetched url (assets url)), v.take url (assets url))
  | ended mesh => (ended mesh, v)

end Loading

/-- A picture that is being drawn. -/
structure Drawing where
  /-- The viewport that it is drawn in. -/
  viewport : Viewport
  /-- The layers in the order in which they are drawn, and how far each has come. -/
  layers : List (Layer × Loading)
deriving Repr

namespace Drawing

/-- A picture before the first turn of any layer. -/
def start (v : Viewport) (layers : List Layer) : Drawing where
  viewport := v
  layers := layers.map fun layer => (layer, .planned)

/-- The layer at some place takes a turn, if there is one. -/
def turn (assets : Assets) (d : Drawing) (place : Nat) : Drawing :=
  match d.layers[place]? with
  | none => d
  | some (layer, loading) =>
    let (loading, viewport) := loading.turn assets d.viewport layer.url
    { viewport, layers := d.layers.set place (layer, loading) }

/-- The layers at some places take a turn each, one after another. -/
def turns (assets : Assets) (d : Drawing) (places : List Nat) : Drawing :=
  places.foldl (turn assets) d

/-- What can be seen of a picture. -/
def frame (d : Drawing) : Frame where
  layers := d.layers.map fun (layer, loading) => { layer, state := loading.state }

end Drawing

/-- A scene is drawn side by side after the meshes of other scenes have been let go. -/
def Viewport.draw (assets : Assets) (v : Viewport) (scene : Scene) (places : List Nat) : Drawing :=
  (Drawing.start (v.retain scene) scene.layers).turns assets places

end SelectorTutorial
