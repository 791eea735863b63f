import SelectorTutorial.Json.Record
import SelectorTutorial.Json.Reader
import SelectorTutorial.Text.Blank

/-! What the body of a refusal says about its reason. -/

namespace SelectorTutorial

namespace Refusal

/-- How deep the detail of a body may be nested. -/
def detailLevels : Nat := 126

/-- The last member of an object under a name. -/
def lastNamed (name : String) : Json → Option Json
  | .object members => (Json.membersNamed name members).getLast?
  | _ => none

/-- The message of one entry in a list of reasons. -/
def entryMessage? (entry : Json) : Option String :=
  (lastNamed "msg" entry).bind Json.text?

/-- A detail is a text that is not blank, trimmed, or the messages of a list of reasons in one
line. -/
def detailMessage? : Json → Option String
  | .text s => if Text.trim s = "" then none else some (Text.trim s)
  | .list entries =>
    let messages := entries.filterMap entryMessage?
    if messages.isEmpty then none else some ("; ".intercalate messages)
  | _ => none

/-- A detail that can be kept. -/
def kept? (json : Json) : Option Json :=
  if json.keepable detailLevels then some json else none

/-- What a body says, taken as a record whose one field is the detail. -/
def ofJson? (body : Json) : Option String := do
  let members ← body.record? ["detail"]
  let detail ← Json.defaulted "detail" kept? .null members
  detailMessage? detail

/-- What the text of a body says; a body that is not JSON says nothing. -/
def detail? (body : String) : Option String :=
  (Json.ofText? body).bind ofJson?

/-- The wording of a refusal. -/
def message (status : Nat) (detail : Option String) : String :=
  s!"backend rejected request with status {status}: " ++ detail.getD "no detail"

end Refusal

end SelectorTutorial
