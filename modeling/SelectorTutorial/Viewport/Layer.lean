import SelectorTutorial.DisplayMode
import SelectorTutorial.Model
import SelectorTutorial.Selection.Result
import SelectorTutorial.Text.Blank
import SelectorTutorial.Viewport.Material

/-! Which meshes make up the picture. -/

namespace SelectorTutorial

/-- A mesh that is to be drawn. -/
structure Layer where
  /-- The part that it plays. -/
  role : Role
  /-- Where it is found. -/
  url : String
deriving DecidableEq, Repr

namespace Layer

/-- How a layer looks. -/
def material (l : Layer) : Material :=
  .ofRole l.role

/-- The URL that a text holds between blanks, if it holds any. -/
def present (url : Option String) : Option String :=
  (url.map Text.trim).filter (· != "")

/-- A layer for a URL that is there. -/
def ofUrl (role : Role) (url : Option String) : List Layer :=
  (present url).toList.map fun url => { role, url }

/-- The layers of a picture: first the model, unless it is left out, and then the selected
shapes. -/
def plan (base preview : Option String) (mode : DisplayMode) : List Layer :=
  (if mode.isHighlightOnly then [] else ofUrl .base base) ++ ofUrl .selectionPreview preview

end Layer

/-- The meshes of a model and of what was selected of it. -/
structure Scene where
  /-- Where the mesh of the model is found. -/
  base : Option String := none
  /-- Where the mesh of the selected shapes is found. -/
  preview : Option String := none
  /-- What is drawn. -/
  mode : DisplayMode := .showBase
deriving DecidableEq, Repr

namespace Scene

/-- The meshes of a model and of a result. -/
def of (model : Option Model) (result : Option Selection.Result) (mode : DisplayMode) : Scene where
  base := model.map (·.meshUrl)
  preview := result.bind (·.previewMeshUrl)
  mode := mode

/-- The layers that are drawn. -/
def layers (s : Scene) : List Layer :=
  Layer.plan s.base s.preview s.mode

/-- Whether a URL is one of a scene, be it drawn or not. -/
def names (s : Scene) (url : String) : Bool :=
  s.base.any (Text.trim · == url) || s.preview.any (Text.trim · == url)

end Scene

end SelectorTutorial
