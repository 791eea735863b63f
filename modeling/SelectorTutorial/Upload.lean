import SelectorTutorial.Text.Blank
import SelectorTutorial.Text.Utf8

/-! Files that the user hands over to be compiled. -/

namespace SelectorTutorial

/-- A file under the name it was chosen by. -/
structure Upload where
  /-- The name, possibly with folders before it. -/
  filename : String
  /-- What the file holds. -/
  content : Bytes
deriving DecidableEq, Repr

namespace Upload

/-- The extensions of the files that can be compiled. -/
def supportedExtensions : List String := ["step", "stp", "stl"]

/-- The parts of a path between slashes, of which empty ones and single dots go nowhere. -/
def pathParts (path : List Char) : List (List Char) :=
  (Text.pieces (· == '/') path).filter fun part => part != [] && part != ['.']

/-- The file that a path leads to; a path that ends by going up leads to none. -/
def baseName? (path : List Char) : Option (List Char) :=
  (pathParts path).getLast?.filter (· != ['.', '.'])

/-- What follows the last dot of a name, unless nothing stands before that dot. -/
def extension? (name : List Char) : Option (List Char) :=
  let ext := (name.reverse.takeWhile (· != '.')).reverse
  let stem := name.take (name.length - ext.length - 1)
  if stem.isEmpty then none else some ext

/-- The extension of a file in small letters. -/
def extension (u : Upload) : Option String :=
  ((baseName? u.filename.toList).bind extension?).map fun ext => Text.lowerAscii (.ofList ext)

/-- Whether a file can be compiled as far as its name tells. -/
def isSupported (u : Upload) : Bool :=
  u.extension.any supportedExtensions.contains

end Upload

end SelectorTutorial
