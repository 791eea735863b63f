import SelectorTutorial.Json.Basic

/-! Whether the model is drawn behind the selected shapes. -/

namespace SelectorTutorial

/-- What the viewport draws. -/
inductive DisplayMode where
  /-- The model and the selected shapes. -/
  | showBase
  /-- The selected shapes alone. -/
  | highlightOnly
deriving DecidableEq, Repr, Inhabited

namespace DisplayMode

/-- The other mode. -/
def toggled : DisplayMode → DisplayMode
  | showBase => highlightOnly
  | highlightOnly => showBase

/-- Whether the model is left out. -/
def isHighlightOnly (m : DisplayMode) : Bool :=
  m == highlightOnly

/-- The label of the button that leaves this mode. -/
def toggleLabel : DisplayMode → String
  | showBase => "Highlight only"
  | highlightOnly => "Show base"

/-- The word for a mode. -/
def name : DisplayMode → String
  | showBase => "show_base"
  | highlightOnly => "highlight_only"

/-- The mode that a word names. -/
def ofName? : String → Option DisplayMode
  | "show_base" => some showBase
  | "highlight_only" => some highlightOnly
  | _ => none

/-- A mode is written as its word. -/
def toJson (m : DisplayMode) : Json := .text m.name

/-- A mode is a word, or an object whose one member has that word for a name and null for a
value. -/
def ofJson? : Json → Option DisplayMode
  | .text word => ofName? word
  | .object [(word, .null)] => ofName? word
  | _ => none

end DisplayMode

end SelectorTutorial
