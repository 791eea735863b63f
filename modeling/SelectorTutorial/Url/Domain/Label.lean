import SelectorTutorial.Text.Direction
import SelectorTutorial.Text.Joining
import SelectorTutorial.Text.Mark
import SelectorTutorial.Url.Domain.Mapping
import SelectorTutorial.Url.Punycode

/-! The labels between the dots of a name: what they mean, and how they are written in ASCII. -/

namespace SelectorTutorial

/-- A label of a name. -/
structure Url.Label where
  /-- The label as it is read. -/
  meant : List Char
  /-- The label as it is written in ASCII. -/
  written : List Char
deriving DecidableEq, Repr

namespace Url

/-- Whether a character lies beyond ASCII. -/
def isBeyondAscii (c : Char) : Bool :=
  0x80 ≤ c.toNat

namespace Label

/-- The character that joins two others without being seen. -/
def joiner : Char := '\u200D'

/-- The character that keeps two others from joining without being seen. -/
def nonJoiner : Char := '\u200C'

/--
An unseen character has a place where it makes a difference: after a sign that takes the vowel from
a letter, or, if it keeps letters apart, where they would join.  What is before it is given from
the nearest character on.
-/
def hasPlace (before : List Char) (c : Char) (after : List Char) : Bool :=
  before.head?.any (Text.Canonical.rank · == Text.Canonical.viramaRank) ||
    (c == nonJoiner &&
      Text.Joining.reaches (fun j => j == .both || j == .after) before &&
      Text.Joining.reaches (fun j => j == .both || j == .before) after)

/-- Every unseen character has a place; what has been passed is given from the nearest on. -/
def unseenHavePlaces : (before after : List Char) → Bool
  | _, [] => true
  | before, c :: after =>
    ((c != joiner && c != nonJoiner) || hasPlace before c after) &&
      unseenHavePlaces (c :: before) after

/-- The most characters that a label beyond ASCII may have. -/
def maxLength : Nat := 1000

/-- The most characters that may stand for a label beyond ASCII after its mark. -/
def maxForm : Nat := 2000

/-- A label beyond ASCII starts with no mark, and nothing in it goes unseen for no reason. -/
def isWellFormed (label : List Char) : Bool :=
  label.length ≤ maxLength && !label.head?.any Text.isMark && unseenHavePlaces [] label

/-- The mark of a label that is written in ASCII for something beyond it. -/
def mark : List Char := ['x', 'n', '-', '-']

/--
The label that some characters are.  One with the mark has to stand for something beyond ASCII that
would be read as nothing else.
-/
def ofText? (label : List Char) : Option Label :=
  if mark.isPrefixOf label then
    let form := label.drop mark.length
    if form.isEmpty ∨ form.getLast? = some '-' ∨ maxForm < form.length ∨
        form.any isBeyondAscii then none
    else do
      let meant ← Punycode.decode? form
      if mapName? meant = some meant ∧ isWellFormed meant then some ⟨meant, label⟩ else none
  else if label.any isBeyondAscii then
    if isWellFormed label then some ⟨label, mark ++ Punycode.encode label⟩ else none
  else some ⟨label, label⟩

/-- Whether a character is written from right to left; none is that comes before Hebrew. -/
def isFromRight (c : Char) : Bool :=
  0x590 ≤ c.toNat && (Text.Direction.ofChar c == .right || Text.Direction.ofChar c == .arabicDigit)

/-- Whether something in a label is written from right to left. -/
def turnsLeft (label : Label) : Bool :=
  label.meant.any isFromRight

/--
A label keeps to one direction: it starts with a letter, holds nothing that is at home in the other
direction, ends in a letter or a digit but for marks, and has digits of one kind.
-/
def keepsDirection (label : Label) : Bool :=
  match label.meant.map Text.Direction.ofChar with
  | [] => true
  | first :: rest =>
    let tail := Text.dropTrailing (· == .mark) rest
    let digits : List Text.Direction := [.digit, .arabicDigit]
    match first, tail.getLast? with
    | .left, none => true
    | .right, none => true
    | .left, some last =>
      [.left, .digit].contains last &&
        tail.all fun d => [.left, .digit, .neutral, .mark].contains d
    | .right, some last =>
      (last == .right || digits.contains last) &&
        (tail.all fun d => [.right, .digit, .arabicDigit, .neutral, .mark].contains d) &&
        !digits.all tail.contains
    | _, _ => false

end Label

end Url

end SelectorTutorial
