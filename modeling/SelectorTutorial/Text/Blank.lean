/-! Blank characters, trimming, and the small cuts of text that the rest of the library is made
of. -/

namespace SelectorTutorial

/-- A character is blank when it has the Unicode property White_Space. -/
def isBlank (c : Char) : Bool :=
  let n := c.toNat
  (0x09 ≤ n && n ≤ 0x0D) || n == 0x20 || n == 0x85 || n == 0xA0 || n == 0x1680 ||
    (0x2000 ≤ n && n ≤ 0x200A) || n == 0x2028 || n == 0x2029 || n == 0x202F || n == 0x205F ||
    n == 0x3000

namespace Text

/-- What is left of a list when the elements at its end that satisfy `p` are dropped. -/
def dropTrailing {α : Type} (p : α → Bool) (xs : List α) : List α :=
  (xs.reverse.dropWhile p).reverse

/-- The characters left when those at both ends that satisfy `p` are dropped. -/
def dropAround (p : Char → Bool) (cs : List Char) : List Char :=
  dropTrailing p (cs.dropWhile p)

/-- Trimming drops the blank characters at both ends of a text and no others. -/
def trim (s : String) : String :=
  .ofList (dropAround isBlank s.toList)

/-- Every slash at the end of a text is dropped. -/
def dropTrailingSlashes (s : String) : String :=
  .ofList (dropTrailing (· == '/') s.toList)

/-- The pieces between the characters that satisfy `p`, one more than there are such characters. -/
def pieces (p : Char → Bool) : List Char → List (List Char)
  | [] => [[]]
  | c :: cs =>
    if p c then [] :: pieces p cs
    else match pieces p cs with
      | [] => [[c]]
      | piece :: rest => (c :: piece) :: rest

/-- Whether `part` occurs somewhere in a list of characters. -/
def occurs (part : List Char) : List Char → Bool
  | [] => part.isEmpty
  | c :: cs => part.isPrefixOf (c :: cs) || occurs part cs

/-- Capital ASCII letters become small ones, and every other character stays. -/
def lowerAscii (s : String) : String :=
  .ofList (s.toList.map Char.toLower)

/-- Two texts are equal up to the case of ASCII letters. -/
def sameIgnoringCase (s t : String) : Bool :=
  lowerAscii s == lowerAscii t

end Text

end SelectorTutorial
