import SelectorTutorial.Backend.Bodies
import SelectorTutorial.Number.Decimal
import SelectorTutorial.Text.Quoted

/-! What the user fills in on the playground, and what it asks for. -/

namespace SelectorTutorial

/-- Bounds as they were typed. -/
structure FilterTexts where
  /-- The smallest area of a face. -/
  minArea : String := ""
  /-- The largest area of a face. -/
  maxArea : String := ""
  /-- The smallest length of an edge. -/
  minLength : String := ""
  /-- The largest length of an edge. -/
  maxLength : String := ""
deriving DecidableEq, Repr

/-- A bound that is no number. -/
structure FilterFault where
  /-- The name of the bound. -/
  field : String
  /-- What was typed, without the blanks around it. -/
  value : String
deriving DecidableEq, Repr

/-- The wording of a fault. -/
def FilterFault.message (f : FilterFault) : String :=
  f.field ++ " must be a number, got " ++ Text.quoted f.value

namespace FilterTexts

/-- A bound is a finite number with blanks around it; blanks alone are no bound. -/
def bound? (field text : String) : Except FilterFault (Option Binary64) :=
  let text := Text.trim text
  if text = "" then .ok none
  else match Decimal.finite? text with
    | some x => .ok (some x)
    | none => .error ⟨field, text⟩

/-- The filters that were typed, if there is a bound among them. -/
def filters? (texts : FilterTexts) : Except FilterFault (Option Selection.Filters) := do
  let minArea ← bound? "min area" texts.minArea
  let maxArea ← bound? "max area" texts.maxArea
  let minLength ← bound? "min length" texts.minLength
  let maxLength ← bound? "max length" texts.maxLength
  let filters : Selection.Filters := { minArea, maxArea, minLength, maxLength }
  return if filters.isEmpty then none else some filters

end FilterTexts

/-- The form of the playground. -/
structure Form where
  /-- Source text. -/
  source : String := ""
  /-- A file. -/
  upload : Option Upload := none
  /-- A built-in example. -/
  example? : Option Example.Id := none
  /-- The selector. -/
  selection : String := ".faces(\"Z\")"
  /-- Bounds on what is kept. -/
  filters : FilterTexts := {}
deriving DecidableEq, Repr

/-- What is compiled: a file, else source text that is not blank, else an example. -/
def Form.modelSource? (form : Form) : Option ModelSource :=
  match form.upload with
  | some file => some (.upload file)
  | none =>
    if Text.trim form.source = "" then form.example?.map .example else some (.inline form.source)

end SelectorTutorial
