import SelectorTutorial.Toml.Reserved
import SelectorTutorial.Toml.Text

/-! Reading a TOML file: its lines one after another, and what they add up to. -/

namespace SelectorTutorial

namespace Toml

/-- How deep values may be nested, and how many names may stand in one key. -/
def levels : Nat := 79

/-- What is left after spaces and tabs. -/
def skipSpaces (cs : List Char) : List Char :=
  cs.dropWhile isSpace

/-- What is left after a comment, if there is one that holds nothing but plain characters. -/
def skipComment : List Char → List Char
  | '#' :: rest => rest.dropWhile isPlain
  | cs => cs

/-- What is left after the end of a line, before which there may be a comment. -/
def afterLine? (cs : List Char) : Option (List Char) :=
  match skipComment (skipSpaces cs) with
  | [] => some []
  | cs => afterBreak? cs

/-- What is left after blanks, line breaks and comments; `bound` is at least the number of these. -/
def skipFiller : (bound : Nat) → List Char → List Char
  | 0, cs => cs
  | bound + 1, cs =>
    match skipComment (skipSpaces cs) with
    | [] => []
    | cs =>
      match afterBreak? cs with
      | some rest => skipFiller bound rest
      | none => cs

/-- What is left after blanks, line breaks and comments. -/
def skipAll (cs : List Char) : List Char :=
  skipFiller cs.length cs

/-- The characters that a name without quotes is made of. -/
def isNameChar (c : Char) : Bool :=
  c.isAlphanum || c == '-' || c == '_'

/-- A name at the head of some characters. -/
def name? (cs : List Char) : Option (String × List Char) :=
  match cs.takeWhile isNameChar with
  | [] => line? cs
  | name => some (.ofList name, cs.drop name.length)

/-- Names with dots between them and blanks around each; `bound` is at least their number. -/
def names? : (bound : Nat) → List Char → Option (List String × List Char)
  | 0, _ => none
  | bound + 1, cs => do
    let (name, rest) ← name? (skipSpaces cs)
    match skipSpaces rest with
    | '.' :: rest =>
      let (names, rest) ← names? bound rest
      return (name :: names, rest)
    | rest => return ([name], rest)

/-- A key: a name with others before it. -/
def key? (cs : List Char) : Option ((List String × String) × List Char) := do
  let (names, rest) ← names? levels cs
  let last ← names.getLast?
  return ((names.dropLast, last), rest)

/-- A way to read a value at the head of some characters. -/
abbrev ValueReader := List Char → Option (Toml × List Char)

/-- The items of a list up to its end; `bound` is at least their number. -/
def items? (value? : ValueReader) : (bound : Nat) → List Char → Option (List Toml × List Char)
  | 0, _ => none
  | bound + 1, cs =>
    match skipAll cs with
    | ']' :: rest => some ([], rest)
    | cs => do
      let (item, rest) ← value? cs
      match skipAll rest with
      | ']' :: rest => return ([item], rest)
      | ',' :: rest =>
        let (items, rest) ← items? value? bound rest
        return (item :: items, rest)
      | _ => none

/-- A name with a value. -/
def pair? (value? : ValueReader) (cs : List Char) :
    Option ((List String × String × Toml) × List Char) := do
  let ((dots, name), rest) ← key? cs
  match rest with
  | '=' :: rest =>
    let (value, rest) ← value? (skipSpaces rest)
    return ((dots, name, value), rest)
  | _ => none

/-- The names and values of a record up to its end, at least one; `bound` is at least their
number. -/
def pairs? (value? : ValueReader) :
    (bound : Nat) → List Char → Option (List (List String × String × Toml) × List Char)
  | 0, _ => none
  | bound + 1, cs => do
    let (pair, rest) ← pair? value? cs
    match skipSpaces rest with
    | '\x7d' :: rest => return ([pair], rest)
    | ',' :: rest =>
      let (pairs, rest) ← pairs? value? bound rest
      return (pair :: pairs, rest)
    | _ => none

/-- A value nested no deeper than a number of levels. -/
def value? : (levels : Nat) → ValueReader
  | levels, cs =>
    match cs with
    | '"' :: _ => (text? cs).map fun (s, rest) => (.text s, rest)
    | '\'' :: _ => (text? cs).map fun (s, rest) => (.text s, rest)
    | '[' :: rest =>
      match levels with
      | 0 => none
      | levels + 1 =>
        (items? (value? levels) (rest.length + 1) rest).map fun (items, rest) => (.list items, rest)
    | '\x7b' :: rest =>
      match levels, skipSpaces rest with
      | 0, _ => none
      | _, '\x7d' :: rest => some (.record [], rest)
      | levels + 1, _ => do
        let (pairs, rest) ← pairs? (value? levels) (rest.length + 1) rest
        return (← recordOf? pairs, rest)
    | _ =>
      let head := scalarHead cs
      (scalar? head).map (·, cs.drop head.length)

/-- A header up to its closing brackets. -/
def header? (close : List Char) (cs : List Char) :
    Option ((List String × String) × List Char) := do
  let (key, rest) ← key? cs
  if close.isPrefixOf rest then some (key, rest.drop close.length) else none

/-- A line that says something, and what follows it. -/
def line (cs : List Char) : Option (Line × List Char) :=
  match cs with
  | '[' :: '[' :: rest => do
    let ((path, name), rest) ← header? [']', ']'] rest
    return (.next path name, ← afterLine? rest)
  | '[' :: rest => do
    let ((path, name), rest) ← header? [']'] rest
    return (.header path name, ← afterLine? rest)
  | _ => do
    let ((dots, name, value), rest) ← pair? (value? levels) cs
    return (.value dots name value, ← afterLine? rest)

/-- The lines of a file that say something; `bound` is at least the number of all lines. -/
def lines? : (bound : Nat) → List Char → Option (List Line)
  | 0, _ => none
  | bound + 1, cs =>
    match skipAll cs with
    | [] => some []
    | cs => do
      let (line, rest) ← line cs
      let lines ← lines? bound rest
      return line :: lines

/-- A mark for the order of bytes may stand before a file. -/
def withoutMark : List Char → List Char
  | '\uFEFF' :: rest => rest
  | cs => cs

/-- The table that a file holds, if all of its values are sound; the reserved name is free in it. -/
def ofText? (s : String) : Option Entries :=
  let cs := withoutMark s.toList
  ((lines? (cs.length + 1) cs).bind Document.ofLines?).filter haveSoundValues

end Toml

end SelectorTutorial
