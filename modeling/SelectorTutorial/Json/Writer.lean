import SelectorTutorial.Json.Basic
import SelectorTutorial.Number.Shortest
import SelectorTutorial.Text.Quoted

/-! Writing a JSON value as text, without blanks. -/

namespace SelectorTutorial

namespace Json

/-- Quotes, backslashes and controls are escaped, and nothing else is. -/
def escaped (c : Char) : String :=
  if c = '"' then "\\\""
  else if c = '\\' then "\\\\"
  else if c.toNat < 0x20 then
    let digits := Text.hexadecimal c.toNat
    "\\u" ++ Binary64.zeros (4 - digits.length) ++ digits
  else c.toString

/-- A text between quotes. -/
def quoted (s : String) : String :=
  "\"" ++ String.join (s.toList.map escaped) ++ "\""

/-- The digits of a number. -/
def Number.text : Number → String
  | whole i => toString i
  | real x => x.text

mutual

/-- The text of a value; what cannot be read is written as null. -/
def toText : Json → String
  | null => "null"
  | bool true => "true"
  | bool false => "false"
  | number n => n.text
  | text s => quoted s
  | list items => "[" ++ ",".intercalate (itemTexts items) ++ "]"
  | object members => "\x7b" ++ ",".intercalate (memberTexts members) ++ "\x7d"
  | unreadable => "null"

/-- The texts of the items of a list. -/
def itemTexts : List Json → List String
  | [] => []
  | item :: items => toText item :: itemTexts items

/-- The texts of the members of an object. -/
def memberTexts : List (String × Json) → List String
  | [] => []
  | (name, value) :: members => (quoted name ++ ":" ++ toText value) :: memberTexts members

end

end Json

end SelectorTutorial
