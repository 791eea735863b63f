import SelectorTutorial.Viewport.Frame

/-! A viewport that keeps the meshes of its last picture, so that they are not fetched again. -/

namespace SelectorTutorial

/-- What fetching a URL would give now. -/
abbrev Assets := String → Except BackendError Bytes

/-- A viewport. -/
structure Viewport where
  /-- The meshes that are kept, each under a URL. -/
  kept : List (String × Mesh) := []
deriving DecidableEq, Repr

namespace Viewport

/-- The mesh that is kept under a URL. -/
def find? (v : Viewport) (url : String) : Option Mesh :=
  v.kept.lookup url

/-- Only the meshes of a scene are kept, be they drawn or not. -/
def retain (v : Viewport) (scene : Scene) : Viewport where
  kept := v.kept.filter fun entry => scene.names entry.1

/-- A mesh is kept under a URL, in place of any that was kept there. -/
def keep (v : Viewport) (url : String) (mesh : Mesh) : Viewport where
  kept := v.kept.filter (fun entry => entry.1 != url) ++ [(url, mesh)]

/-- What was fetched from a URL is kept if it is a mesh. -/
def take (v : Viewport) (url : String) (fetched : Except BackendError Bytes) : Viewport :=
  match Mesh.ofFetched url fetched with
  | .ok mesh => v.keep url mesh
  | .error _ => v

/-- A layer that was loaded. -/
structure Loaded where
  /-- The layer. -/
  layer : RenderedLayer
  /-- The URLs that were fetched for it. -/
  fetched : List String
  /-- The viewport afterwards. -/
  viewport : Viewport

/-- A layer is fetched unless its mesh is kept, and a mesh that was fetched is kept. -/
def load (assets : Assets) (v : Viewport) (layer : Layer) : Loaded :=
  match v.find? layer.url with
  | some mesh => { layer := { layer, state := .ready mesh }, fetched := [], viewport := v }
  | none =>
    { layer := { layer, state := .ofMesh (Mesh.ofFetched layer.url (assets layer.url)) }
      fetched := [layer.url]
      viewport := v.take layer.url (assets layer.url) }

/-- A picture that was drawn. -/
structure Rendering where
  /-- The picture. -/
  frame : Frame
  /-- The URLs that were fetched for it, in order. -/
  fetched : List String
  /-- The viewport afterwards. -/
  viewport : Viewport

/-- The layers are loaded one after another. -/
def loadAll (assets : Assets) (v : Viewport) : List Layer → Rendering
  | [] => { frame := {}, fetched := [], viewport := v }
  | layer :: rest =>
    let first := load assets v layer
    let others := loadAll assets first.viewport rest
    { frame := { layers := first.layer :: others.frame.layers }
      fetched := first.fetched ++ others.fetched
      viewport := others.viewport }

/-- A scene is drawn after the meshes of other scenes have been let go. -/
def render (assets : Assets) (v : Viewport) (scene : Scene) : Rendering :=
  loadAll assets (v.retain scene) scene.layers

end Viewport

end SelectorTutorial
