import SelectorTutorial.Text.Blank

/-! What the keyboard can do. -/

namespace SelectorTutorial

/-- A key that was pressed. -/
structure KeyPress where
  /-- The name of the key. -/
  key : String
  /-- Whether the control key was held. -/
  ctrl : Bool := false
  /-- Whether the command key was held. -/
  command : Bool := false
deriving DecidableEq, Repr

/-- What a key can stand for. -/
inductive Shortcut where
  | runSelection
  | toggleMode
deriving DecidableEq, Repr

/-- The word for a shortcut. -/
def Shortcut.name : Shortcut → String
  | runSelection => "run_selection"
  | toggleMode => "toggle_display_mode"

/-- Enter with a held key runs the selector, and the letter h alone toggles the display mode. -/
def KeyPress.shortcut (press : KeyPress) : Option Shortcut :=
  if press.ctrl || press.command then
    if press.key = "Enter" then some .runSelection else none
  else if Text.sameIgnoringCase press.key "h" then some .toggleMode
  else none

end SelectorTutorial
