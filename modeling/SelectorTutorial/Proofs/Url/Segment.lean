import SelectorTutorial.Proofs.Text.Case
import SelectorTutorial.Url.Basic

/-! A text put into a path as one segment: what its percent signs denote, and what the path
gains. -/

namespace SelectorTutorial

namespace Utf8

/-- Different characters have different bytes. -/
theorem chars_inj {cs ds : List Char} :
    cs.flatMap String.utf8EncodeChar = ds.flatMap String.utf8EncodeChar ↔ cs = ds := by
  constructor
  · intro same
    -- The library decodes the bytes of a list of characters to that list.
    have encoded : cs.utf8Encode = ds.utf8Encode := List.toByteArray_inj.mpr same
    have decoded : some cs.toArray = some ds.toArray := by
      rw [← List.utf8Decode?_utf8Encode, ← List.utf8Decode?_utf8Encode, encoded]
    exact List.toArray_inj (Option.some.inj decoded)
  · rintro rfl
    rfl

end Utf8

namespace Digits

/-- Each of the sixteen capital digits has its own value. -/
theorem value?_hexCapital {n : Nat} (small : n < 16) : value? (Url.hexCapital n) = some n := by
  -- The sixteen digits are looked through.
  decide +revert

/-- A digit is one of ten characters. -/
theorem isDigit_iff (c : Char) : c.isDigit ↔ 48 ≤ c.toNat ∧ c.toNat ≤ 57 := by
  -- The definition compares code points.
  simp [Char.isDigit, UInt32.le_iff_toNat_le]

/-- A small letter has the value of its capital. -/
theorem value?_toLower (c : Char) : value? c.toLower = value? c := by
  rcases Text.toLower_cases c with same | ⟨least, most, moved⟩
  · rw [same]
  · -- A capital is no decimal digit, and neither is the small letter.
    have noDigit : ¬ (48 ≤ c.toNat ∧ c.toNat ≤ 57) := by omega
    have noDigitLower : ¬ (48 ≤ c.toNat + 32 ∧ c.toNat + 32 ≤ 57) := by omega
    have noSmall : ¬ (97 ≤ c.toNat ∧ c.toNat ≤ 102) := by omega
    simp only [value?, isDigit_iff, moved, Char.reduceToNat, noDigit, noDigitLower, noSmall,
      if_false]
    by_cases hex : c.toNat ≤ 70
    · have small : 97 ≤ c.toNat + 32 ∧ c.toNat + 32 ≤ 102 := by omega
      have value : c.toNat + 32 - 97 + 10 = c.toNat - 65 + 10 := by omega
      rw [if_pos small, if_pos ⟨least, hex⟩, value]
    · have noHex : ¬ (97 ≤ c.toNat + 32 ∧ c.toNat + 32 ≤ 102) := by omega
      rw [if_neg noHex, if_neg (by omega), if_neg (by omega)]

end Digits

namespace Url

/-! ### What percent signs denote -/

/-- A character that is no percent sign denotes itself. -/
theorem percentDecode_cons_of_ne {c : Char} (noPercent : c ≠ '%') (rest : List Char) :
    percentDecode (c :: rest) = String.utf8EncodeChar c ++ percentDecode rest := by
  -- The first branch is for percent signs.
  rw [percentDecode]
  rintro _ _ _ rfl
  exact absurd rfl noPercent

/-- A percent sign and two digits denote the byte with that value. -/
theorem percentDecode_digits {a b : Char} {x y : Nat} (high : Digits.value? a = some x)
    (low : Digits.value? b = some y) (rest : List Char) :
    percentDecode ('%' :: a :: b :: rest) = .ofNat (16 * x + y) :: percentDecode rest := by
  -- The first branch reads both digits.
  rw [percentDecode, high, low]

/-- An encoded byte denotes that byte. -/
theorem percentDecode_encodeByte (b : UInt8) (rest : List Char) :
    percentDecode (encodeByte b ++ rest) = b :: percentDecode rest := by
  -- The two digits are the quotient and the rest by sixteen.
  have bound := b.toNat_lt
  have high : Digits.value? (hexCapital (b.toNat / 16)) = some (b.toNat / 16) :=
    Digits.value?_hexCapital (by omega)
  have low : Digits.value? (hexCapital (b.toNat % 16)) = some (b.toNat % 16) :=
    Digits.value?_hexCapital (by omega)
  simp only [encodeByte, List.cons_append, List.nil_append]
  rw [percentDecode_digits high low, Nat.div_add_mod, UInt8.ofNat_toNat]

/-- Encoded bytes denote those bytes. -/
theorem percentDecode_encodeBytes (bytes : Bytes) (rest : List Char) :
    percentDecode (bytes.flatMap encodeByte ++ rest) = bytes ++ percentDecode rest := by
  -- Byte by byte.
  induction bytes with
  | nil => rfl
  | cons b bytes ih =>
    rw [List.flatMap_cons, List.append_assoc, percentDecode_encodeByte, ih, List.cons_append]

section Encoded

variable {encoded : Char → Bool}

/-- Characters denote themselves when they are encoded, whichever of them are, as long as a percent
sign is. -/
theorem percentDecode_percentEncode (percent : encoded '%') (cs : List Char) :
    percentDecode (percentEncode encoded cs) = cs.flatMap String.utf8EncodeChar := by
  -- By induction on the characters.
  induction cs with
  | nil => rfl
  | cons c cs ih =>
    rw [percentEncode] at ih ⊢
    rw [List.flatMap_cons, List.flatMap_cons]
    split
    · rw [percentDecode_encodeBytes, ih]
    · next plain =>
      -- A character that is left as it is starts no encoded byte.
      have noPercent : c ≠ '%' := by
        rintro rfl
        exact plain percent
      rw [List.singleton_append, percentDecode_cons_of_ne noPercent, ih]

/-- Different texts stay different when they are encoded. -/
theorem percentEncode_inj (percent : encoded '%') {cs ds : List Char} :
    percentEncode encoded cs = percentEncode encoded ds ↔ cs = ds := by
  -- What is decoded are the bytes of the text, which tell the text.
  constructor
  · intro same
    rw [← Utf8.chars_inj]
    calc cs.flatMap String.utf8EncodeChar
        = percentDecode (percentEncode encoded cs) := (percentDecode_percentEncode percent cs).symm
      _ = percentDecode (percentEncode encoded ds) := congrArg percentDecode same
      _ = ds.flatMap String.utf8EncodeChar := percentDecode_percentEncode percent ds
  · rintro rfl
    rfl

end Encoded

/-! ### Dots -/

/-- The bytes of a dot. -/
theorem utf8EncodeChar_dot : String.utf8EncodeChar '.' = [46] := by
  -- A dot is one byte.
  decide

/-- A dot in small letters denotes a dot. -/
theorem percentDecode_dot {c : Char} (dot : c.toLower = '.') (rest : List Char) :
    percentDecode (c :: rest) = 46 :: percentDecode rest := by
  -- Only a dot is a dot in small letters.
  obtain rfl := Text.eq_of_toLower_eq dot (by decide)
  rw [percentDecode_cons_of_ne (by decide), utf8EncodeChar_dot, List.singleton_append]

/-- The encoded form of a dot in small letters denotes a dot. -/
theorem percentDecode_encodedDot {a b c : Char} (percent : a.toLower = '%') (two : b.toLower = '2')
    (letter : c.toLower = 'e') (rest : List Char) :
    percentDecode (a :: b :: c :: rest) = 46 :: percentDecode rest := by
  -- The letter may be a capital, whose value as a digit is the same.
  obtain rfl := Text.eq_of_toLower_eq percent (by decide)
  obtain rfl := Text.eq_of_toLower_eq two (by decide)
  have high : Digits.value? '2' = some 2 := rfl
  have low : Digits.value? c = some 14 := by
    rw [← Digits.value?_toLower, letter]
    rfl
  rw [percentDecode_digits high low]
  rfl

/-- Whatever is read as a dot denotes one. -/
theorem percentDecode_of_isDot {segment : List Char} (dot : isDot segment) :
    percentDecode segment = [46] := by
  simp only [isDot, Bool.or_eq_true, beq_iff_eq, Text.lowerAscii_eq_iff] at dot
  -- The dot is written out or encoded.
  rcases dot with plain | hidden
  · obtain ⟨c, rfl, dot⟩ := List.map_eq_singleton_iff.mp plain
    exact percentDecode_dot dot []
  · simp only [String.reduceToList, List.map_eq_cons_iff, List.map_eq_nil_iff] at hidden
    obtain ⟨a, _, rfl, percent, b, _, rfl, two, c, _, rfl, letter, rfl⟩ := hidden
    exact percentDecode_encodedDot percent two letter []

/-- Whatever is read as a double dot denotes two dots. -/
theorem percentDecode_of_isDoubleDot {segment : List Char} (dots : isDoubleDot segment) :
    percentDecode segment = [46, 46] := by
  simp only [isDoubleDot, Bool.or_eq_true, beq_iff_eq, Text.lowerAscii_eq_iff, String.reduceToList,
    List.map_eq_cons_iff, List.map_eq_nil_iff] at dots
  -- Each of the two dots may be written out or encoded.
  rcases dots with ((plain | hidden) | hiddenFirst) | hiddenLast
  · obtain ⟨c, _, rfl, dot, d, _, rfl, dot', rfl⟩ := plain
    rw [percentDecode_dot dot, percentDecode_dot dot', percentDecode]
  · obtain ⟨a, _, rfl, percent, b, _, rfl, two, c, _, rfl, letter, a', _, rfl, percent', b', _, rfl,
      two', c', _, rfl, letter', rfl⟩ := hidden
    rw [percentDecode_encodedDot percent two letter, percentDecode_encodedDot percent' two' letter',
      percentDecode]
  · obtain ⟨a, _, rfl, percent, b, _, rfl, two, c, _, rfl, letter, d, _, rfl, dot, rfl⟩ :=
      hiddenFirst
    rw [percentDecode_encodedDot percent two letter, percentDecode_dot dot, percentDecode]
  · obtain ⟨d, _, rfl, dot, a, _, rfl, percent, b, _, rfl, two, c, _, rfl, letter, rfl⟩ :=
      hiddenLast
    rw [percentDecode_dot dot, percentDecode_encodedDot percent two letter, percentDecode]

/-! ### Whole segments -/

/-- Characters as the text of one segment. -/
def encodeSegment (special : Bool) (cs : List Char) : List Char :=
  percentEncode (encodedInSegment special) cs

section Special

variable {special : Bool}

/-- A percent sign is encoded in every segment. -/
theorem encodedInSegment_percent : encodedInSegment special '%' := by
  -- This is so for both kinds of schemes.
  decide +revert

/-- An encoded segment denotes the bytes of its characters. -/
theorem percentDecode_encodeSegment (cs : List Char) :
    percentDecode (encodeSegment special cs) = cs.flatMap String.utf8EncodeChar :=
  -- The percent sign is encoded, so none of its own is taken for that of an encoded byte.
  percentDecode_percentEncode encodedInSegment_percent cs

/-- Different characters make different segments. -/
theorem encodeSegment_inj {cs ds : List Char} :
    encodeSegment special cs = encodeSegment special ds ↔ cs = ds :=
  -- The percent sign is encoded.
  percentEncode_inj encodedInSegment_percent

/-- A segment denotes the bytes of no other characters than its own. -/
theorem percentDecode_encodeSegment_eq_iff {cs ds : List Char} :
    percentDecode (encodeSegment special cs) = ds.flatMap String.utf8EncodeChar ↔ cs = ds := by
  -- It denotes the bytes of its own characters, and these tell the characters.
  rw [percentDecode_encodeSegment, Utf8.chars_inj]

/-- Only a dot is read as one. -/
theorem isDot_encodeSegment_iff {cs : List Char} :
    isDot (encodeSegment special cs) ↔ cs = ['.'] := by
  -- What is read as a dot denotes one, and the segment denotes its own characters.
  constructor
  · intro dot
    exact percentDecode_encodeSegment_eq_iff.mp (percentDecode_of_isDot dot)
  · rintro rfl
    decide +revert

/-- Only two dots are read as a double dot. -/
theorem isDoubleDot_encodeSegment_iff {cs : List Char} :
    isDoubleDot (encodeSegment special cs) ↔ cs = ['.', '.'] := by
  -- What is read as two dots denotes them, and the segment denotes its own characters.
  constructor
  · intro dots
    exact percentDecode_encodeSegment_eq_iff.mp (percentDecode_of_isDoubleDot dots)
  · rintro rfl
    decide +revert

end Special

/-- What a text that is pushed into a path comes to. -/
inductive Pushed where
  /-- Nothing at all. -/
  | nothing
  /-- An empty segment in the place of the last one. -/
  | up
  /-- One more segment, which denotes some characters. -/
  | segment (cs : List Char)
deriving DecidableEq, Repr

/-- What is left of a text without its tabs and line breaks. -/
def kept (text : String) : List Char :=
  text.toList.filter fun c => !isDropped c

/-- What a text comes to: a dot and a double dot to nothing, unless something was left out to get
them; then the one is an empty segment, and the other goes up. -/
def pushed (text : String) : Pushed :=
  if text = "." ∨ text = ".." then .nothing
  else if kept text = ['.', '.'] then .up
  else if kept text = ['.'] then .segment []
  else .segment (kept text)

/-- A text has nothing that a URL leaves out, and is no dot or double dot. -/
def IsWhole (text : String) : Prop :=
  text ≠ "." ∧ text ≠ ".." ∧ ∀ c ∈ text.toList, c ≠ '\t' ∧ c ≠ '\n' ∧ c ≠ '\r'

/-- Nothing is left out of a text just when it has no tab and no line break. -/
theorem kept_eq_iff {text : String} :
    kept text = text.toList ↔ ∀ c ∈ text.toList, c ≠ '\t' ∧ c ≠ '\n' ∧ c ≠ '\r' := by
  -- A filter changes nothing just when it keeps every character.
  rw [kept, List.filter_eq_self]
  simp [isDropped, and_assoc]

/-- A text comes to a segment of its own characters just when it is whole. -/
theorem pushed_eq_segment_iff {text : String} :
    pushed text = .segment text.toList ↔ IsWhole text := by
  -- By whether the text is dots itself, or becomes dots when something is left out.
  rw [IsWhole, ← kept_eq_iff, pushed]
  split
  · next dots =>
    rcases dots with dots | dots <;> simp [dots]
  · next noDots =>
    obtain ⟨noDot, noDoubleDot⟩ := not_or.mp noDots
    have other : text.toList ≠ ['.', '.'] := fun dots => noDoubleDot (String.toList_inj.mp dots)
    have other' : text.toList ≠ ['.'] := fun dot => noDot (String.toList_inj.mp dot)
    simp only [ne_eq, noDot, noDoubleDot, not_false_eq_true, true_and]
    split
    · -- What is left can only be two dots if something else was left out.
      next dots => simp [dots, other.symm]
    · split
      · next dot =>
        -- An empty text would leave nothing, and no dot.
        have some : text.toList ≠ [] := by
          intro empty
          simp [kept, empty] at dot
        simp [dot, other'.symm, some.symm]
      · rw [Pushed.segment.injEq]

instance (text : String) : Decidable (IsWhole text) :=
  decidable_of_iff _ pushed_eq_segment_iff

/-- A path with what a text comes to at its end. -/
def Pushed.onto (special : Bool) (path : List String) : Pushed → List String
  | nothing => path
  | up => path.dropLast ++ [""]
  | segment cs => path ++ [.ofList (encodeSegment special cs)]

/-- What a push does to a path whose last segment is a name. -/
theorem pushSegment_eq_onto {scheme last : String} (path : List String) (text : String)
    (named : last ≠ "") (noDrive : ¬ isDrive last.toList) :
    pushSegment scheme (path ++ [last]) text =
      (pushed text).onto (isSpecial scheme) (path ++ [last]) := by
  -- The path has a name at its end, so nothing is taken from it before the push.
  have noRoot : withoutRoot (path ++ [last]) = path ++ [last] := by
    rw [withoutRoot, if_neg]
    intro root
    have ends := congrArg List.getLast? root
    rw [List.getLast?_concat] at ends
    exact named (Option.some.inj ends)
  have above : parent (path ++ [last]) = path := by
    rw [parent, List.getLast?_concat]
    simp [noDrive]
  rw [pushSegment, noRoot, pushed]
  split
  · rfl
  · -- What is left is encoded first and then gone to, so it counts as dots only if it is dots.
    change descend scheme true (path ++ [last]) (encodeSegment (isSpecial scheme) (kept text)) = _
    simp only [descend, isDoubleDot_encodeSegment_iff, isDot_encodeSegment_iff]
    split
    · simp [above, Pushed.onto]
    · split
      · simp [Pushed.onto, encodeSegment, percentEncode]
      · simp [Pushed.onto, addSegment]

example : pushSegment "http" ["api", "lessons"] "\t.." = ["api", ""] := by
  decide

/-- The text of a path is that of its parts, one after the other. -/
theorem Path.text_append (path rest : List String) :
    (Path.segments (path ++ rest)).text =
      (Path.segments path).text ++ (Path.segments rest).text := by
  -- Each part brings its own slash.
  simp only [Path.text, List.map_append, String.join_append]

/-- The end of a path that has a last segment and a text pushed onto it. -/
def Pushed.ending (special : Bool) (last : String) : Pushed → List String
  | nothing => [last]
  | up => [""]
  | segment cs => [last, .ofList (encodeSegment special cs)]

/-- A segment that is pushed changes no more than the last one of the path. -/
theorem Pushed.onto_concat (special : Bool) (path : List String) (last : String) (what : Pushed) :
    what.onto special (path ++ [last]) = path ++ what.ending special last := by
  -- By what the segment comes to.
  cases what <;> simp [Pushed.onto, Pushed.ending]

/-- What texts come to can be told from the text of the path onto which they are pushed. -/
theorem Pushed.text_onto_inj {special : Bool} {last : String} (path : List String)
    (named : last ≠ "") {what other : Pushed} :
    (Path.segments (what.onto special (path ++ [last]))).text =
      (Path.segments (other.onto special (path ++ [last]))).text ↔ what = other := by
  rw [Pushed.onto_concat, Pushed.onto_concat, Path.text_append, Path.text_append,
    String.append_right_inj, ← String.toList_inj]
  -- The three endings differ in their slashes, and two segments in what they denote.
  cases what <;> cases other <;>
    simp [Path.text, Pushed.ending, named, encodeSegment_inj, String.join_cons]

end Url

end SelectorTutorial
