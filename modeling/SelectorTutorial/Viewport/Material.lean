/-! How a mesh looks, by the part that it plays in the picture. -/

namespace SelectorTutorial

/-- A colour of red, green and blue. -/
structure Rgb where
  /-- Red. -/
  red : UInt8
  /-- Green. -/
  green : UInt8
  /-- Blue. -/
  blue : UInt8
deriving DecidableEq, Repr

namespace Rgb

/-- The colour with a number of six hexadecimal digits; digits before these do not count. -/
def ofNumber (n : UInt32) : Rgb :=
  { red := (n >>> 16).toUInt8, green := (n >>> 8).toUInt8, blue := n.toUInt8 }

/-- No light at all. -/
def black : Rgb := ofNumber 0x000000

/-- A grey that keeps in the background. -/
def neutral : Rgb := ofNumber 0xd4d4d8

/-- A blue that stands out. -/
def highlight : Rgb := ofNumber 0x4c9aff

/-- A byte with two hexadecimal digits. -/
def byteText (b : UInt8) : String :=
  .ofList [Nat.digitChar (b.toNat / 16), Nat.digitChar (b.toNat % 16)]

/-- A colour as style sheets have it. -/
def text (c : Rgb) : String :=
  "#" ++ byteText c.red ++ byteText c.green ++ byteText c.blue

end Rgb

/-- A share of the whole, in hundredths. -/
structure Share where
  /-- The hundredths. -/
  hundredths : Nat
deriving DecidableEq, Repr

namespace Share

/-- The whole. -/
def whole : Share := ⟨100⟩

/-- A share with two decimal places. -/
def twoPlaces (s : Share) : String :=
  let places := s.hundredths % 100
  s!"{s.hundredths / 100}." ++ (if places < 10 then "0" else "") ++ toString places

/-- A share with as many decimal places as it takes. -/
def text (s : Share) : String :=
  let places := s.hundredths % 100
  if places = 0 then toString (s.hundredths / 100)
  else if places % 10 = 0 then s!"{s.hundredths / 100}.{places / 10}"
  else s.twoPlaces

end Share

/-- The part that a mesh plays in the picture. -/
inductive Role where
  /-- The model. -/
  | base
  /-- The selected shapes. -/
  | selectionPreview
deriving DecidableEq, Repr

namespace Role

/-- The word for a role. -/
def name : Role → String
  | base => "base"
  | selectionPreview => "selection_preview"

/-- The name of a role in what is printed. -/
def label : Role → String
  | base => "Base"
  | selectionPreview => "SelectionPreview"

end Role

/-- How a mesh looks. -/
structure Material where
  /-- The colour that it reflects. -/
  color : Rgb
  /-- The colour that it sends out. -/
  emissive : Rgb
  /-- How much of that it sends out. -/
  emissiveIntensity : Share
  /-- How much of what is behind it is hidden. -/
  opacity : Share
deriving DecidableEq, Repr

namespace Material

/-- The model is a pale grey, and the selected shapes shine in blue. -/
def ofRole : Role → Material
  | .base =>
    { color := .neutral, emissive := .black, emissiveIntensity := ⟨0⟩, opacity := ⟨25⟩ }
  | .selectionPreview =>
    { color := .highlight, emissive := .highlight, emissiveIntensity := ⟨60⟩, opacity := ⟨95⟩ }

/-- Whether something can be seen through a material. -/
def isTransparent (m : Material) : Bool :=
  m.opacity.hundredths < Share.whole.hundredths

end Material

end SelectorTutorial
