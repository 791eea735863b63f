import SelectorTutorial.Text.Canonical.Composite
import SelectorTutorial.Text.Canonical.Rank

/-!
The canonical form of a text.  Texts that differ only in whether a character is written as a whole
or in its parts, or in the order of marks that do not touch each other, have the same one.
-/

namespace SelectorTutorial

namespace Text.Canonical

/-- The first syllable of Hangul. -/
def firstSyllable : Nat := 0xAC00

/-- The first leading consonant of Hangul, of which there are 19. -/
def firstLead : Nat := 0x1100

/-- The first vowel of Hangul, of which there are 21. -/
def firstVowel : Nat := 0x1161

/-- The code point before the first of the 27 trailing consonants of Hangul. -/
def noTrail : Nat := 0x11A7

/-- The parts of a syllable of Hangul: all of them, as a syllable with no more than a vowel has
two. -/
def syllableParts? (c : Char) : Option (List Char) :=
  let n := c.toNat - firstSyllable
  if c.toNat < firstSyllable ∨ 19 * 21 * 28 ≤ n then none
  else
    let trail := if n % 28 = 0 then [] else [.ofNat (noTrail + n % 28)]
    some (.ofNat (firstLead + n / (21 * 28)) :: .ofNat (firstVowel + n / 28 % 21) :: trail)

/-- The syllable that a consonant and a vowel are, or an open syllable and a consonant. -/
def syllable? (first second : Char) : Option Char :=
  let lead := first.toNat - firstLead
  let vowel := second.toNat - firstVowel
  let opened := first.toNat - firstSyllable
  let trail := second.toNat - noTrail
  if firstLead ≤ first.toNat ∧ lead < 19 ∧ firstVowel ≤ second.toNat ∧ vowel < 21 then
    some (.ofNat (firstSyllable + (lead * 21 + vowel) * 28))
  else if firstSyllable ≤ first.toNat ∧ opened < 19 * 21 * 28 ∧ opened % 28 = 0 ∧
      noTrail < second.toNat ∧ trail < 28 then
    some (.ofNat (first.toNat + trail))
  else none

/-- The whole that two characters are. -/
def whole? (first second : Char) : Option Char :=
  match syllable? first second with
  | some c => some c
  | none =>
    (composites.find? fun x => x.first = first.toNat ∧ x.second = second.toNat).map (.ofNat ·.whole)

/-- A character in its parts, if those of its parts that are wholes are taken apart `depth`
times. -/
def parts : (depth : Nat) → Char → List Char
  | 0, c => [c]
  | depth + 1, c =>
    match syllableParts? c, composites.find? fun x => x.whole = c.toNat with
    | some cs, _ => cs
    | none, some x => parts depth (.ofNat x.first) ++ parts depth (.ofNat x.second)
    | none, none => [c]

/-- No part is a whole of wholes more than this many times over. -/
def depthOfParts : Nat := 4

/-- Puts a character before some others, after those of them that are marks of a lower rank. -/
def settle (c : Char) : List Char → List Char
  | [] => [c]
  | d :: rest =>
    if 0 < rank d ∧ rank d < rank c then d :: settle c rest else c :: d :: rest

/-- A text in its smallest parts, with the marks on each letter by their rank. -/
def decompose (cs : List Char) : List Char :=
  (cs.flatMap (parts depthOfParts)).foldr settle []

/-- A mark reaches the letter before it if the mark between them that is nearest is of lower
rank. -/
def isReached (between : List Char) (c : Char) : Bool :=
  between.getLast?.all fun d => rank d < rank c

/-- What a letter and the marks kept after it make with the characters that follow. -/
def composeFrom (letter : Char) (between : List Char) : List Char → List Char
  | [] => letter :: between
  | c :: rest =>
    match if isReached between c then whole? letter c else none with
    | some whole => composeFrom whole between rest
    | none =>
      if rank c = 0 then letter :: between ++ composeFrom c [] rest
      else composeFrom letter (between ++ [c]) rest

/-- A text in parts with each letter and its marks put together as far as there are wholes for
them. -/
def compose : List Char → List Char
  | [] => []
  | c :: rest => if rank c = 0 then composeFrom c [] rest else c :: compose rest

/-- The canonical form of a text. -/
def form (cs : List Char) : List Char :=
  compose (decompose cs)

end Text.Canonical

end SelectorTutorial
