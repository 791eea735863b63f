import SelectorTutorial.Backend.Error
import SelectorTutorial.Viewport.Glb
import SelectorTutorial.Viewport.Layer

/-! A picture, with what has become of each of its layers. -/

namespace SelectorTutorial

/-- A mesh that was fetched. -/
structure Mesh where
  /-- Where it was found. -/
  url : String
  /-- What its head says. -/
  header : Glb.Header
  /-- All of it. -/
  bytes : Bytes
deriving DecidableEq, Repr

/-- Why there is no mesh. -/
inductive Mesh.Fault where
  /-- It could not be fetched. -/
  | fetch (error : BackendError)
  /-- It is no mesh. -/
  | format (fault : Glb.Fault)
deriving DecidableEq, Repr

namespace Mesh

/-- The wording of a fault. -/
def Fault.message : Fault → String
  | fetch error => "asset request failed: " ++ error.message
  | format fault => "asset is not binary glTF: " ++ fault.message

/-- The mesh in what was fetched from a URL. -/
def ofFetched (url : String) (fetched : Except BackendError Bytes) : Except Fault Mesh :=
  match fetched with
  | .error error => .error (.fetch error)
  | .ok bytes =>
    match Glb.header? bytes with
    | .error fault => .error (.format fault)
    | .ok header => .ok { url, header, bytes }

end Mesh

/-- What has become of a layer. -/
inductive LayerState where
  /-- It is being fetched. -/
  | loading
  /-- It can be drawn. -/
  | ready (mesh : Mesh)
  /-- There is nothing to draw. -/
  | failed (reason : String)
deriving DecidableEq, Repr

/-- What has become of a layer whose mesh was fetched. -/
def LayerState.ofMesh : Except Mesh.Fault Mesh → LayerState
  | .ok mesh => ready mesh
  | .error fault => failed fault.message

/-- A layer, and what has become of it. -/
structure RenderedLayer where
  /-- The layer. -/
  layer : Layer
  /-- What has become of it. -/
  state : LayerState
deriving DecidableEq, Repr

/-- A picture. -/
structure Frame where
  /-- The layers in the order in which they are drawn. -/
  layers : List RenderedLayer := []
deriving DecidableEq, Repr

namespace Frame

/-- The picture while all of its layers are being fetched. -/
def pending (layers : List Layer) : Frame where
  layers := layers.map fun layer => { layer, state := .loading }

/-- The picture when nothing was there before and each layer is fetched. -/
def fresh (fetch : String → Except BackendError Bytes) (layers : List Layer) : Frame where
  layers := layers.map fun layer =>
    { layer, state := .ofMesh (Mesh.ofFetched layer.url (fetch layer.url)) }

/-- Whether a layer can be drawn. -/
def isDrawn (l : RenderedLayer) : Bool :=
  match l.state with
  | .ready _ => true
  | _ => false

/-- The layers that can be drawn. -/
def drawn (f : Frame) : List RenderedLayer :=
  f.layers.filter isDrawn

/-- The layers that cannot be drawn, and why. -/
def failures (f : Frame) : List (Layer × String) :=
  f.layers.filterMap fun l =>
    match l.state with
    | .failed reason => some (l.layer, reason)
    | _ => none

/-- Whether something is still being fetched. -/
def isLoading (f : Frame) : Bool :=
  f.layers.any (·.state == .loading)

end Frame

end SelectorTutorial
