import SelectorTutorial.Text.Utf8

/-! Which bytes are read as a text without a fault, and as which text. -/

namespace SelectorTutorial

namespace Utf8

/-- Bytes that spell a code point, as few of them as it takes. -/
inductive Spells : Bytes → Nat → Prop
  | one {a : UInt8} {n : Nat} (lead : a.toNat = n) (most : n < 0x80) : Spells [a] n
  | two {a b : UInt8} {n : Nat} (lead : a.toNat = 0xC0 + n / 64) (last : b.toNat = 0x80 + n % 64)
      (least : 0x80 ≤ n) (most : n < 0x800) : Spells [a, b] n
  | three {a b c : UInt8} {n : Nat} (lead : a.toNat = 0xE0 + n / 4096)
      (second : b.toNat = 0x80 + n / 64 % 64) (last : c.toNat = 0x80 + n % 64)
      (least : 0x800 ≤ n) (most : n < 0x10000) : Spells [a, b, c] n
  | four {a b c d : UInt8} {n : Nat} (lead : a.toNat = 0xF0 + n / 262144)
      (second : b.toNat = 0x80 + n / 4096 % 64) (third : c.toNat = 0x80 + n / 64 % 64)
      (last : d.toNat = 0x80 + n % 64) (least : 0x10000 ≤ n) (most : n < 0x110000) :
      Spells [a, b, c, d] n

variable {b : UInt8} {bytes spelt rest : Bytes} {c : Char} {n : Nat} {s : Started}

/-- The code point of a character is none of a surrogate, and not too large. -/
theorem toNat_cases (c : Char) : c.toNat < 0xD800 ∨ (0xDFFF < c.toNat ∧ c.toNat < 0x110000) :=
  -- This is what it takes to be a character.
  c.valid

/-- A character is spelt by the bytes that it is encoded in. -/
theorem spells_utf8EncodeChar (c : Char) : Spells (String.utf8EncodeChar c) c.toNat := by
  -- By the length that the code point asks for.
  have valid := toNat_cases c
  have byte {n : Nat} (small : n < 256) : (UInt8.ofNat n).toNat = n := by
    rw [UInt8.toNat_ofNat', Nat.mod_eq_of_lt small]
  have same : c.val.toNat = c.toNat := rfl
  -- One of four ranges holds the code point, and all that is put into a byte fits it.
  simp only [String.utf8EncodeChar, same]
  split
  · exact .one (byte (by omega)) (by omega)
  · split
    · refine .two ?_ ?_ (by omega) (by omega) <;> rw [byte (by omega)] <;> omega
    · split
      · refine .three ?_ ?_ ?_ (by omega) (by omega) <;> rw [byte (by omega)] <;> omega
      · refine .four ?_ ?_ ?_ ?_ (by omega) (by omega) <;> rw [byte (by omega)] <;> omega

/-- A code point is spelt in one way. -/
theorem Spells.unique (spells : Spells spelt n) (others : Spells rest n) : spelt = rest := by
  -- Two spellings of different lengths have code points in different ranges; of one length, the
  -- bytes are told by the digits of the code point.
  cases spells <;> cases others <;> first
    | omega
    | simp only [List.cons.injEq, and_true, ← UInt8.toNat_inj]
      omega

/-- The bytes that spell a character are the ones that it is encoded in. -/
theorem spells_iff : Spells spelt c.toNat ↔ spelt = String.utf8EncodeChar c := by
  -- A character has one spelling, and its encoding is one.
  constructor
  · exact fun spells => spells.unique (spells_utf8EncodeChar c)
  · rintro rfl
    exact spells_utf8EncodeChar c

/-! ### What the first byte of a character says -/

/-- A byte below 0x80 is a character by itself. -/
theorem first_one (small : n < 0x80) : first n = ([some (.ofNat n)], none) := by
  -- This is the first branch.
  rw [first, if_pos small]

/-- A byte from 0xC2 up to 0xDF begins a character of two bytes. -/
theorem first_two (least : 0xC2 ≤ n) (most : n ≤ 0xDF) :
    first n = ([], some ⟨1, n - 0xC0, 0x80, 0xBF⟩) := by
  -- This is the second branch.
  rw [first, if_neg (by omega), if_pos ⟨least, most⟩]

/-- A byte from 0xE0 up to 0xEF begins a character of three bytes; the second one is bounded more
closely after the first and the last but two of them. -/
theorem first_three (least : 0xE0 ≤ n) (most : n ≤ 0xEF) :
    first n = ([], some ⟨2, n - 0xE0, if n = 0xE0 then 0xA0 else 0x80,
      if n = 0xED then 0x9F else 0xBF⟩) := by
  -- The first and the last but two of them leave less room to the byte that follows.
  by_cases low : n = 0xE0
  · subst low
    rfl
  by_cases high : n = 0xED
  · subst high
    rfl
  rw [first, if_neg (by omega), if_neg (by omega), if_neg low, if_neg high, if_pos (by omega),
    if_neg low, if_neg high]

/-- A byte from 0xF0 up to 0xF4 begins a character of four bytes; the second one is bounded more
closely after the first and the last of them. -/
theorem first_four (least : 0xF0 ≤ n) (most : n ≤ 0xF4) :
    first n = ([], some ⟨3, n - 0xF0, if n = 0xF0 then 0x90 else 0x80,
      if n = 0xF4 then 0x8F else 0xBF⟩) := by
  -- The two bytes with bounds of their own have branches of their own.
  by_cases low : n = 0xF0
  · subst low
    rfl
  by_cases high : n = 0xF4
  · subst high
    rfl
  rw [first, if_neg (by omega), if_neg (by omega), if_neg (by omega), if_neg (by omega),
    if_neg (by omega), if_neg low, if_neg high, if_pos (by omega), if_neg low, if_neg high]

/-- Any other byte begins no character. -/
theorem first_fault (outside : (0x80 ≤ n ∧ n < 0xC2) ∨ 0xF4 < n) : first n = ([none], none) := by
  -- It is in none of the ranges.
  rw [first, if_neg (by omega), if_neg (by omega), if_neg (by omega), if_neg (by omega),
    if_neg (by omega), if_neg (by omega), if_neg (by omega), if_neg (by omega)]

/-! ### One character after the other -/

/-- Between characters, the next byte is the first one of a character. -/
theorem symbolsFrom_first {found : List Symbol} {after : Option Started}
    (leads : first b.toNat = (found, after)) :
    symbolsFrom none (b :: rest) = found ++ symbolsFrom after rest := by
  -- This is one step of the reading.
  simp only [symbolsFrom, next, leads]

/-- The last byte of a character that was begun completes it. -/
theorem symbolsFrom_last {bits low high : Nat} (least : low ≤ b.toNat) (most : b.toNat ≤ high) :
    symbolsFrom (some ⟨1, bits, low, high⟩) (b :: rest) =
      some (.ofNat (bits * 64 + (b.toNat - 0x80))) :: symbolsFrom none rest := by
  -- One byte is missing, and this one is within its bounds.
  simp only [symbolsFrom, next, if_pos (And.intro least most)]
  rfl

/-- A byte of a character that was begun, after which more are to come. -/
theorem symbolsFrom_more {missing bits low high : Nat} (least : low ≤ b.toNat)
    (most : b.toNat ≤ high) :
    symbolsFrom (some ⟨missing + 2, bits, low, high⟩) (b :: rest) =
      symbolsFrom (some ⟨missing + 1, bits * 64 + (b.toNat - 0x80), 0x80, 0xBF⟩) rest := by
  -- More than one byte is missing, and this one is within its bounds.
  have more : ¬ missing + 2 ≤ 1 := by omega
  simp only [symbolsFrom, next, if_pos (And.intro least most), if_neg more]
  rfl

/-- A character that was begun goes on with a byte in its bounds, or there is a fault. -/
theorem exists_cons_of_started {missing bits low high : Nat}
    (sound : none ∉ symbolsFrom (some ⟨missing, bits, low, high⟩) bytes) :
    ∃ b rest, bytes = b :: rest ∧ low ≤ b.toNat ∧ b.toNat ≤ high := by
  -- Both the end of the bytes and a byte out of bounds would leave a fault.
  cases bytes with
  | nil => exact absurd (List.mem_singleton_self _) sound
  | cons b rest =>
    by_cases inside : low ≤ b.toNat ∧ b.toNat ≤ high
    · exact ⟨b, rest, rfl, inside⟩
    · simp only [symbolsFrom, next, if_neg inside] at sound
      exact absurd (List.mem_append_left _ List.mem_cons_self) sound

/-- The bytes that spell a character are read as that character, whatever follows them. -/
theorem symbolsFrom_of_spells (spells : Spells spelt c.toNat) :
    symbolsFrom none (spelt ++ rest) = some c :: symbolsFrom none rest := by
  -- By the length of the spelling: the first byte says how many follow, and the others add their
  -- bits.
  have valid := toNat_cases c
  have character {n : Nat} (same : n = c.toNat) : Char.ofNat n = c := by
    rw [same, Char.ofNat_toNat]
  cases spells with
  | one lead most =>
    rw [List.singleton_append, symbolsFrom_first (first_one (by omega)), character lead]
    rfl
  | two lead last least most =>
    simp only [List.cons_append, List.nil_append]
    rw [symbolsFrom_first (first_two (by omega) (by omega)), List.nil_append,
      symbolsFrom_last (by omega) (by omega), character (by omega)]
  | three lead second last least most =>
    simp only [List.cons_append, List.nil_append]
    rw [symbolsFrom_first (first_three (by omega) (by omega)), List.nil_append,
      symbolsFrom_more (by split <;> omega) (by split <;> omega),
      symbolsFrom_last (by omega) (by omega), character (by omega)]
  | four lead second third last least most =>
    simp only [List.cons_append, List.nil_append]
    rw [symbolsFrom_first (first_four (by omega) (by omega)), List.nil_append,
      symbolsFrom_more (by split <;> omega) (by split <;> omega),
      symbolsFrom_more (by omega) (by omega),
      symbolsFrom_last (by omega) (by omega), character (by omega)]

/-- Bytes begin with the bytes of a character. -/
def BeginsWithChar (bytes : Bytes) : Prop :=
  ∃ n spelt rest, bytes = spelt ++ rest ∧ Spells spelt n ∧ n.isValidChar

/-- After the first byte of two, the other one is there. -/
theorem beginsWithChar_two (least : 0xC2 ≤ b.toNat) (most : b.toNat ≤ 0xDF)
    (sound : none ∉ symbolsFrom none (b :: bytes)) : BeginsWithChar (b :: bytes) := by
  -- The first byte leaves one to be read.
  rw [symbolsFrom_first (first_two least most)] at sound
  obtain ⟨x, rest, rfl, leastX, mostX⟩ := exists_cons_of_started sound
  exact ⟨(b.toNat - 0xC0) * 64 + (x.toNat - 0x80), [b, x], rest, rfl,
    .two (by omega) (by omega) (by omega) (by omega), .inl (by omega)⟩

/-- After the first byte of three, the other two are there. -/
theorem beginsWithChar_three (least : 0xE0 ≤ b.toNat) (most : b.toNat ≤ 0xEF)
    (sound : none ∉ symbolsFrom none (b :: bytes)) : BeginsWithChar (b :: bytes) := by
  -- The two bytes are taken one after the other, each with its bounds.
  rw [symbolsFrom_first (first_three least most), List.nil_append] at sound
  obtain ⟨x, rest, rfl, leastX, mostX⟩ := exists_cons_of_started sound
  rw [symbolsFrom_more leastX mostX] at sound
  obtain ⟨y, rest, rfl, leastY, mostY⟩ := exists_cons_of_started sound
  -- After the first of these bytes the second one is large, and after the last but two small.
  have large : 0x80 ≤ x.toNat ∧ (b.toNat = 0xE0 → 0xA0 ≤ x.toNat) := by
    split at leastX <;> omega
  have small : x.toNat ≤ 0xBF ∧ (b.toNat = 0xED → x.toNat ≤ 0x9F) := by
    split at mostX <;> omega
  have valid : (((b.toNat - 0xE0) * 64 + (x.toNat - 0x80)) * 64 +
      (y.toNat - 0x80)).isValidChar := by
    unfold Nat.isValidChar
    omega
  exact ⟨_, [b, x, y], rest, rfl,
    .three (by omega) (by omega) (by omega) (by omega) (by omega), valid⟩

/-- After the first byte of four, the other three are there. -/
theorem beginsWithChar_four (least : 0xF0 ≤ b.toNat) (most : b.toNat ≤ 0xF4)
    (sound : none ∉ symbolsFrom none (b :: bytes)) : BeginsWithChar (b :: bytes) := by
  -- The first byte leaves three to be read; the bounds of the second keep the code point within
  -- those of characters.
  rw [symbolsFrom_first (first_four least most), List.nil_append] at sound
  obtain ⟨x, rest, rfl, leastX, mostX⟩ := exists_cons_of_started sound
  rw [symbolsFrom_more leastX mostX] at sound
  obtain ⟨y, rest, rfl, leastY, mostY⟩ := exists_cons_of_started sound
  rw [symbolsFrom_more leastY mostY] at sound
  obtain ⟨z, rest, rfl, leastZ, mostZ⟩ := exists_cons_of_started sound
  have large : 0x80 ≤ x.toNat ∧ (b.toNat = 0xF0 → 0x90 ≤ x.toNat) := by
    split at leastX <;> omega
  have small : x.toNat ≤ 0xBF ∧ (b.toNat = 0xF4 → x.toNat ≤ 0x8F) := by
    split at mostX <;> omega
  have valid : ((((b.toNat - 0xF0) * 64 + (x.toNat - 0x80)) * 64 + (y.toNat - 0x80)) * 64 +
      (z.toNat - 0x80)).isValidChar := by
    unfold Nat.isValidChar
    omega
  exact ⟨_, [b, x, y, z], rest, rfl,
    .four (by omega) (by omega) (by omega) (by omega) (by omega) (by omega), valid⟩

/-- Bytes without a fault begin with the bytes of a character. -/
theorem beginsWithChar (sound : none ∉ symbolsFrom none (b :: bytes)) :
    BeginsWithChar (b :: bytes) := by
  -- The first byte tells how many there are.
  by_cases one : b.toNat < 0x80
  · exact ⟨b.toNat, [b], bytes, rfl, .one rfl one, .inl (by omega)⟩
  by_cases fault : b.toNat < 0xC2 ∨ 0xF4 < b.toNat
  · rw [symbolsFrom_first (first_fault (by omega))] at sound
    exact absurd List.mem_cons_self sound
  by_cases two : b.toNat ≤ 0xDF
  · exact beginsWithChar_two (by omega) two sound
  by_cases three : b.toNat ≤ 0xEF
  · exact beginsWithChar_three (by omega) three sound
  · exact beginsWithChar_four (by omega) (by omega) sound

/-- Bytes without a fault begin with bytes that spell a character. -/
theorem exists_spells (sound : none ∉ symbolsFrom none (b :: bytes)) :
    ∃ c spelt rest, b :: bytes = spelt ++ rest ∧ Spells spelt (Char.toNat c) := by
  -- They begin with a spelling of some code point, and that is one of a character.
  obtain ⟨n, spelt, rest, split, spells, valid⟩ := beginsWithChar sound
  have same : (Char.ofNat n).toNat = n := by
    rw [Char.ofNat, dif_pos valid]
    rfl
  exact ⟨.ofNat n, spelt, rest, split, same.symm ▸ spells⟩

/-- Bytes without a fault are those of the characters that are read of them. -/
theorem eq_flatMap_of_symbolsFrom {cs : List Char} (read : symbolsFrom none bytes = cs.map some) :
    bytes = cs.flatMap String.utf8EncodeChar := by
  -- The induction is on the characters, the bytes of which are taken off one after the other.
  induction cs generalizing bytes with
  | nil =>
    cases bytes with
    | nil => rfl
    | cons b bytes =>
      have sound : none ∉ symbolsFrom none (b :: bytes) := by simp [read]
      obtain ⟨c, spelt, rest, split, spells⟩ := exists_spells sound
      rw [split, symbolsFrom_of_spells spells] at read
      cases read
  | cons d cs ih =>
    cases bytes with
    | nil => cases read
    | cons b bytes =>
      have sound : none ∉ symbolsFrom none (b :: bytes) := by simp [read]
      obtain ⟨c, spelt, rest, split, spells⟩ := exists_spells sound
      rw [split, symbolsFrom_of_spells spells, List.map_cons, List.cons.injEq,
        Option.some.injEq] at read
      obtain ⟨rfl, left⟩ := read
      rw [split, List.flatMap_cons, ← ih left, spells_iff.mp spells]

/-- The bytes of characters are read as these characters. -/
theorem symbolsFrom_flatMap (cs : List Char) :
    symbolsFrom none (cs.flatMap String.utf8EncodeChar) = cs.map some := by
  -- Character by character.
  induction cs with
  | nil => rfl
  | cons c cs ih =>
    rw [List.flatMap_cons, symbolsFrom_of_spells (spells_utf8EncodeChar c), ih, List.map_cons]

/-- All of a list is there just when it is a list of what is there. -/
theorem mapM_id_eq_some_iff {α : Type} {found : List (Option α)} {xs : List α} :
    found.mapM id = some xs ↔ found = xs.map some := by
  -- Element by element: one that is missing makes all of it missing.
  induction found generalizing xs with
  | nil => cases xs <;> simp
  | cons x found ih =>
    cases x with
    | none => cases xs <;> simp
    | some x =>
      cases xs with
      | nil => simp [Option.bind_eq_some_iff]
      | cons y ys =>
        simp only [List.mapM_cons, id_eq, Option.bind_eq_bind, Option.bind_some, ih,
          Option.bind_eq_some_iff, Option.pure_def, Option.some.injEq, List.map_cons,
          List.cons.injEq]
        constructor
        · rintro ⟨rest, rfl, rfl, rfl⟩
          exact ⟨rfl, rfl⟩
        · rintro ⟨rfl, rfl⟩
          exact ⟨ys, rfl, rfl, rfl⟩

/-- Bytes are read as a text just when they are the bytes of it. -/
theorem decode?_eq_some_iff_eq_encode {text : String} :
    decode? bytes = some text ↔ bytes = encode text := by
  -- Bytes without a fault are those of characters, and the bytes of characters have no fault.
  rw [decode?, Option.map_eq_some_iff]
  constructor
  · rintro ⟨cs, read, rfl⟩
    rw [encode, String.toList_ofList]
    exact eq_flatMap_of_symbolsFrom (mapM_id_eq_some_iff.mp read)
  · rintro rfl
    exact ⟨text.toList, mapM_id_eq_some_iff.mpr (symbolsFrom_flatMap _), String.ofList_toList⟩

end Utf8

end SelectorTutorial
