import SelectorTutorial.Viewport.Glb

/-!
What the head of a binary glTF is read from: which bytes are taken for one, what is read of them,
and how far the bytes after the declared length count.
-/

namespace SelectorTutorial

namespace Glb

/-- How many bytes the head of a file takes. -/
def headLength : Nat := 12

/-- How many bytes the head of a chunk takes: its length and its type. -/
def chunkHeadLength : Nat := 8

/-- The bytes of a word, the least significant first. -/
def bytesOf (word : UInt32) : Bytes :=
  [word.toUInt8, (word >>> 8).toUInt8, (word >>> 16).toUInt8, (word >>> 24).toUInt8]

/-- The bytes of a word stand among others, from some place on. -/
def StandsAt (word : UInt32) (place : Nat) (bytes : Bytes) : Prop :=
  bytesOf word <+: bytes.drop place

/-- What a word says of the chunk that it is the type of. -/
inductive Names : UInt32 → Chunk → Prop
  | json : Names 0x4E4F534A .json
  | binary : Names 0x004E4942 .binary
  | unknown {type : UInt32} (noJson : type ≠ 0x4E4F534A) (noBinary : type ≠ 0x004E4942) :
      Names type (.unknown type)

/-- What bytes must be like for their head to say something. -/
structure Says (bytes : Bytes) (header : Header) : Prop where
  /-- There is room for the head. -/
  room : headLength ≤ bytes.length
  /-- The bytes begin with the four letters. -/
  marked : Utf8.encode "glTF" <+: bytes
  /-- The version is the one that is understood. -/
  version : header.version = 2
  /-- The version stands after the letters. -/
  versionThere : StandsAt header.version 4 bytes
  /-- The length stands after the version. -/
  declaredThere : StandsAt header.declaredLength 8 bytes
  /-- No more bytes are declared than there are. -/
  declaredFits : header.declaredLength.toNat ≤ bytes.length
  /-- There is a first chunk just when there is room for its head too. -/
  hasChunk : header.firstChunk.isSome ↔ headLength + chunkHeadLength ≤ bytes.length
  /-- The first chunk is what the last word of its head says, which in turn is told by the chunk. -/
  chunk : ∀ type chunk, Names type chunk → (header.firstChunk = some chunk ↔ StandsAt type 16 bytes)

/-- The head of a file and of its first chunk, with what comes after them. -/
def file (declared size type : UInt32) (payload : Bytes) : Bytes :=
  Utf8.encode "glTF" ++ bytesOf 2 ++ bytesOf declared ++ bytesOf size ++ bytesOf type ++ payload

/--
The head of a file, looked at word by word, each check before the words that it is for.  To look
past the end of the bytes would leave nothing at all, not even a fault.
-/
def inspect (bytes : Bytes) : Option (Except Fault Header) := do
  if bytes.length < headLength then return .error (.short bytes.length)
  let start ← word? 0 bytes
  if start ≠ magic then return .error .noMagic
  let version ← word? 4 bytes
  let declared ← word? 8 bytes
  if version ≠ supportedVersion then return .error (.unsupportedVersion version)
  if bytes.length < declared.toNat then return .error (.truncated declared bytes.length)
  if bytes.length < headLength + chunkHeadLength then
    return .ok { version, declaredLength := declared, firstChunk := none }
  let type ← word? 16 bytes
  return .ok { version, declaredLength := declared, firstChunk := some (.ofType type) }

variable {bytes other : Bytes} {word type its : UInt32} {place : Nat} {header : Header}
  {chunk : Chunk}

/-! ### Words -/

/-- A word is made of four bytes. -/
theorem length_bytesOf (word : UInt32) : (bytesOf word).length = 4 := rfl

/-- Four bytes make up a word just when they are the bytes of it. -/
theorem wordOf_eq_iff {a b c d : UInt8} : wordOf a b c d = word ↔ bytesOf word = [a, b, c, d] := by
  -- Both sides say what the digits of the word are to the base of 256.
  have boundA := a.toNat_lt
  have boundB := b.toNat_lt
  have boundC := c.toNat_lt
  have boundD := d.toNat_lt
  have bound := word.toNat_lt
  simp only [wordOf, bytesOf, List.cons.injEq, and_true, ← UInt32.toNat_inj, ← UInt8.toNat_inj,
    UInt32.toNat_ofNat', UInt32.toNat_toUInt8, UInt32.toNat_shiftRight, Nat.shiftRight_eq_div_pow]
  simp only [UInt32.reduceToNat, Nat.reduceMod, Nat.reducePow]
  omega

/-- The word that is read at a place is the one whose bytes stand there. -/
theorem word?_eq_some_iff : word? place bytes = some word ↔ StandsAt word place bytes := by
  -- Only what is left from that place on counts, and of it the first four bytes.
  unfold word? StandsAt
  constructor
  · intro read
    split at read
    · next a b c d rest left =>
      cases read
      rw [left, wordOf_eq_iff.mp rfl]
      exact ⟨rest, rfl⟩
    · cases read
  · rintro ⟨rest, left⟩
    rw [← left]
    exact congrArg some (wordOf_eq_iff.mpr rfl)

/-- A word is read at a place just when there are four bytes from there on. -/
theorem isSome_word?_iff : (word? place bytes).isSome ↔ place + 4 ≤ bytes.length := by
  -- By whether four bytes can be taken off.
  have left := List.length_drop (i := place) (l := bytes)
  unfold word?
  split
  · next a b c d rest split =>
    simp only [split, List.length_cons] at left
    simp only [Option.isSome_some, true_iff]
    omega
  · next few =>
    simp only [Option.isSome_none, Bool.false_eq_true, false_iff]
    intro fits
    -- Four bytes that are left can be taken off one by one.
    match split : bytes.drop place, left with
    | a :: b :: c :: d :: rest, _ => exact few a b c d rest split
    | [], left | [_], left | [_, _], left | [_, _, _], left =>
      simp only [List.length_cons, List.length_nil] at left
      omega

/-- The type of a first chunk is missing just where there is no room for the head of one. -/
theorem chunkType_eq_none_iff :
    word? 16 bytes = none ↔ bytes.length < headLength + chunkHeadLength := by
  -- The word ends where the head of a chunk does.
  rw [← Option.not_isSome_iff_eq_none, isSome_word?_iff, Nat.not_le]
  rfl

/-- There is a type of a first chunk just where there is room for the head of one. -/
theorem exists_chunkType_iff :
    (∃ type, word? 16 bytes = some type) ↔ headLength + chunkHeadLength ≤ bytes.length := by
  -- The word ends where the head of a chunk does.
  rw [← Option.isSome_iff_exists, isSome_word?_iff]
  rfl

/-- A word that stands somewhere ends before the bytes do. -/
theorem StandsAt.fits (stands : StandsAt word place bytes) : place + 4 ≤ bytes.length := by
  -- A word that stands there can be read there.
  rw [← isSome_word?_iff, word?_eq_some_iff.mpr stands]
  rfl

/-- The letters are the bytes of the word that a file begins with. -/
theorem bytesOf_magic : bytesOf magic = Utf8.encode "glTF" := by
  -- Four bytes are compared.
  decide

/-! ### Chunks -/

/-- A word stands for the chunk that it names. -/
theorem names_iff : Names type chunk ↔ Chunk.ofType type = chunk := by
  -- Two words are known, and any other stands for itself.
  constructor
  · intro names
    cases names with
    | json => rfl
    | binary => rfl
    | unknown noJson noBinary =>
      rw [Chunk.ofType, jsonType, binaryType, if_neg noJson, if_neg noBinary]
  · rintro rfl
    unfold Chunk.ofType
    split
    · next json => exact json ▸ .json
    · next noJson =>
      split
      · next binary => exact binary ▸ .binary
      · next noBinary => exact .unknown noJson noBinary

/-- No two words name the same chunk. -/
theorem Names.unique (names : Names type chunk) (itNames : Names its chunk) : type = its := by
  -- By what is named; a word that is not known is told by its chunk.
  cases names with
  | json =>
    cases itNames
    rfl
  | binary =>
    cases itNames
    rfl
  | unknown noJson noBinary =>
    cases itNames
    rfl

/-! ### Heads -/

/-- Where there is no room for a head, that is the fault. -/
theorem header?_of_short (short : bytes.length < headLength) :
    header? bytes = .error (.short bytes.length) := by
  -- The third word of a head ends where the head does.
  have missing : word? 8 bytes = none := by
    rw [← Option.not_isSome_iff_eq_none, isSome_word?_iff]
    unfold headLength at short
    omega
  unfold header?
  split
  · next declared _ _ read =>
    rw [missing] at read
    cases read
  · rfl

/-- Where there is room for a head, three words are read, and the checks are made on them. -/
theorem header?_of_room (room : headLength ≤ bytes.length) :
    ∃ start version declared, word? 0 bytes = some start ∧ word? 4 bytes = some version ∧
      word? 8 bytes = some declared ∧
      header? bytes =
        if start ≠ magic then .error .noMagic
        else if version ≠ supportedVersion then .error (.unsupportedVersion version)
        else if bytes.length < declared.toNat then .error (.truncated declared bytes.length)
        else .ok
          { version, declaredLength := declared, firstChunk := (word? 16 bytes).map .ofType } := by
  -- None of the three readings can fail, which leaves the checks in their order.
  unfold headLength at room
  have reads (place : Nat) (fits : place + 4 ≤ bytes.length) :
      ∃ word, word? place bytes = some word :=
    Option.isSome_iff_exists.mp (isSome_word?_iff.mpr fits)
  obtain ⟨start, starts⟩ := reads 0 (by omega)
  obtain ⟨version, versioned⟩ := reads 4 (by omega)
  obtain ⟨declared, declares⟩ := reads 8 (by omega)
  refine ⟨start, version, declared, starts, versioned, declares, ?_⟩
  simp only [header?, starts, versioned, declares]

/-- No look at the head of a file goes past the end of the bytes. -/
theorem inspect_eq_some (bytes : Bytes) : inspect bytes = some (header? bytes) := by
  -- Where the bytes are too few both stop at once, and else three words can be read.
  by_cases short : bytes.length < headLength
  · simp only [inspect, if_pos short, header?_of_short short]
    rfl
  · obtain ⟨start, version, declared, starts, versioned, declares, read⟩ :=
      header?_of_room (Nat.le_of_not_lt short)
    rw [read]
    simp only [inspect, if_neg short, starts, versioned, declares, Option.bind_eq_bind,
      Option.bind_some, Option.pure_def]
    -- The checks are the same ones in the same order, up to the one before the last word.
    by_cases unmarked : start ≠ magic
    · rw [if_pos unmarked, if_pos unmarked]
    by_cases unsupported : version ≠ supportedVersion
    · rw [if_neg unmarked, if_neg unmarked, if_pos unsupported, if_pos unsupported]
    by_cases truncated : bytes.length < declared.toNat
    · rw [if_neg unmarked, if_neg unmarked, if_neg unsupported, if_neg unsupported,
        if_pos truncated, if_pos truncated]
    rw [if_neg unmarked, if_neg unmarked, if_neg unsupported, if_neg unsupported,
      if_neg truncated, if_neg truncated]
    by_cases chunkless : bytes.length < headLength + chunkHeadLength
    · rw [if_pos chunkless, chunkType_eq_none_iff.mpr chunkless, Option.map_none]
    · obtain ⟨type, typed⟩ := exists_chunkType_iff.mpr (Nat.le_of_not_lt chunkless)
      rw [if_neg chunkless, typed, Option.bind_some, Option.map_some]

/-- A first chunk is what the word at its place says just when it is there where there is room for
its head, and tells the word at that place. -/
theorem eq_map_ofType_iff {first : Option Chunk} :
    first = (word? 16 bytes).map .ofType ↔
      (first.isSome ↔ headLength + chunkHeadLength ≤ bytes.length) ∧
      ∀ type chunk, Names type chunk → (first = some chunk ↔ StandsAt type 16 bytes) := by
  -- The word can be read just where there is room, and it names one chunk.
  constructor
  · rintro rfl
    refine ⟨by rw [Option.isSome_map, Option.isSome_iff_exists, exists_chunkType_iff], ?_⟩
    intro type chunk names
    rw [Option.map_eq_some_iff, ← word?_eq_some_iff]
    constructor
    · rintro ⟨its, read, stands⟩
      rw [read, (names_iff.mpr stands).unique names]
    · intro read
      exact ⟨type, read, names_iff.mp names⟩
  · rintro ⟨room, tells⟩
    cases read : word? 16 bytes with
    | none =>
      have short := chunkType_eq_none_iff.mp read
      have chunkless : ¬ first.isSome := by
        rw [room]
        omega
      exact Option.not_isSome_iff_eq_none.mp chunkless
    | some type =>
      have names : Names type (.ofType type) := names_iff.mpr rfl
      exact (tells type _ names).mpr (word?_eq_some_iff.mp read)

/-- A head is read just when its words pass the checks. -/
theorem header?_eq_ok_iff_words :
    header? bytes = .ok header ↔
      word? 0 bytes = some magic ∧ word? 4 bytes = some header.version ∧
      word? 8 bytes = some header.declaredLength ∧ header.version = supportedVersion ∧
      header.declaredLength.toNat ≤ bytes.length ∧
      header.firstChunk = (word? 16 bytes).map .ofType := by
  -- Where the bytes are too few neither holds, and else three words can be read.
  by_cases short : bytes.length < headLength
  · rw [header?_of_short short]
    refine ⟨nofun, fun ⟨_, _, declares, _⟩ => ?_⟩
    have room := (word?_eq_some_iff.mp declares).fits
    unfold headLength at short
    omega
  · obtain ⟨start, version, declared, starts, versioned, declares, read⟩ :=
      header?_of_room (Nat.le_of_not_lt short)
    rw [read, starts, versioned, declares, Option.some.injEq, Option.some.injEq,
      Option.some.injEq]
    constructor
    · intro accepted
      -- The bytes have passed one check after the other.
      split at accepted
      · cases accepted
      · next marked =>
        split at accepted
        · cases accepted
        · next supported =>
          split at accepted
          · cases accepted
          · next fits =>
            cases accepted
            exact ⟨Decidable.not_not.mp marked, rfl, rfl, Decidable.not_not.mp supported,
              Nat.le_of_not_lt fits, rfl⟩
    · rintro ⟨rfl, rfl, rfl, supported, fits, chunk⟩
      rw [if_neg (Decidable.not_not.mpr rfl), if_neg (Decidable.not_not.mpr supported),
        if_neg (Nat.not_lt.mpr fits), ← chunk]

/-- A head is read just when the bytes say it. -/
theorem header?_eq_ok_iff : header? bytes = .ok header ↔ Says bytes header := by
  -- To read words is to find them standing there.
  rw [header?_eq_ok_iff_words, word?_eq_some_iff, word?_eq_some_iff, word?_eq_some_iff,
    eq_map_ofType_iff, StandsAt, bytesOf_magic]
  constructor
  · intro ⟨marked, versionThere, declaredThere, version, declaredFits, hasChunk, chunk⟩
    exact {
      room := declaredThere.fits
      marked, version, versionThere, declaredThere, declaredFits, hasChunk, chunk }
  · intro told
    exact ⟨told.marked, told.versionThere, told.declaredThere, told.version, told.declaredFits,
      told.hasChunk, told.chunk⟩

/-- A head and the head of a chunk that were written are read again just when there are as many
bytes as they declare. -/
theorem header?_file_eq_ok_iff {declared size : UInt32} {payload : Bytes} :
    header? (file declared size type payload) =
        .ok { version := 2, declaredLength := declared, firstChunk := some (.ofType type) } ↔
      declared.toNat ≤ headLength + chunkHeadLength + payload.length := by
  -- All words stand where they were written, so the declared length is the only check that can
  -- fail.
  rw [file, ← bytesOf_magic]
  have length : (bytesOf magic ++ bytesOf 2 ++ bytesOf declared ++ bytesOf size ++ bytesOf type ++
      payload).length = headLength + chunkHeadLength + payload.length := by
    simp only [List.length_append, length_bytesOf, headLength, chunkHeadLength]
  rw [header?_eq_ok_iff, ← length]
  constructor
  · exact fun told => told.declaredFits
  · intro fits
    have typeThere : StandsAt type 16 (bytesOf magic ++ bytesOf 2 ++ bytesOf declared ++
        bytesOf size ++ bytesOf type ++ payload) := ⟨payload, rfl⟩
    have sole := (@eq_map_ofType_iff _ (some (.ofType type))).mp
      (by rw [word?_eq_some_iff.mpr typeThere, Option.map_some])
    exact {
      room := by rw [length]; omega
      marked := by
        rw [← bytesOf_magic]
        exact ⟨bytesOf 2 ++ bytesOf declared ++ bytesOf size ++ bytesOf type ++ payload, rfl⟩
      version := rfl
      versionThere := ⟨bytesOf declared ++ bytesOf size ++ bytesOf type ++ payload, rfl⟩
      declaredThere := ⟨bytesOf size ++ bytesOf type ++ payload, rfl⟩
      declaredFits := fits
      hasChunk := sole.1
      chunk := sole.2 }

/-- No look at the head of a file goes past the end of the bytes.  A head is read just when there is
room for it, the bytes begin with the four letters, the version is two, and no more bytes are
declared than there are.  It says what the bytes say, and the first chunk and the word at its place
tell each other.  A head that was written is read again as it was, if there are bytes enough. -/
theorem head_is_read_exactly :
    (∀ bytes, inspect bytes = some (header? bytes)) ∧
    (∀ bytes, (∃ header, header? bytes = .ok header) ↔
      headLength ≤ bytes.length ∧ Utf8.encode "glTF" <+: bytes ∧ StandsAt 2 4 bytes ∧
        ∃ declared, StandsAt declared 8 bytes ∧ declared.toNat ≤ bytes.length) ∧
    (∀ bytes header, header? bytes = .ok header ↔ Says bytes header) ∧
    ∀ declared size type payload, ∃ chunk, Names type chunk ∧
      (header? (file declared size type payload) =
          .ok { version := 2, declaredLength := declared, firstChunk := some chunk } ↔
        declared.toNat ≤ headLength + chunkHeadLength + payload.length) := by
  -- Three of the four parts are known; for the second one the head is taken apart and put together.
  refine ⟨inspect_eq_some, fun bytes => ?_, fun bytes header => header?_eq_ok_iff,
    fun declared size type payload => ⟨.ofType type, names_iff.mpr rfl, header?_file_eq_ok_iff⟩⟩
  constructor
  · rintro ⟨header, read⟩
    have told := header?_eq_ok_iff.mp read
    exact ⟨told.room, told.marked, told.version ▸ told.versionThere,
      header.declaredLength, told.declaredThere, told.declaredFits⟩
  · rintro ⟨room, marked, versionThere, declared, declaredThere, declaredFits⟩
    -- The first chunk is whatever the word at its place says.
    obtain ⟨hasChunk, chunk⟩ := (@eq_map_ofType_iff bytes _).mp rfl
    exact ⟨⟨2, declared, _⟩, header?_eq_ok_iff.mpr
      { room, marked, version := rfl, versionThere, declaredThere, declaredFits, hasChunk, chunk }⟩

/-! ### Bytes after the declared length -/

/-- What is read at a place does not depend on bytes that come later. -/
theorem word?_take {n : Nat} (before : place + 4 ≤ n) :
    word? place (bytes.take n) = word? place bytes := by
  -- The bytes of the word lie before those that are cut off.
  apply Option.ext
  intro word
  have inside : (bytesOf word).length ≤ n - place := by
    rw [length_bytesOf]
    omega
  rw [word?_eq_some_iff, word?_eq_some_iff, StandsAt, StandsAt, List.drop_take,
    List.prefix_take_iff]
  simp only [inside, and_true]

/-- No two words stand for the same chunk. -/
theorem Chunk.ofType_injective : Function.Injective ofType := by
  -- Each of the words names its chunk, and no two name the same.
  intro type its same
  exact (names_iff.mpr same).unique (names_iff.mpr rfl)

/-- The first chunk of a head that was read is what the word at its place says. -/
theorem firstChunk_eq (read : header? bytes = .ok header) :
    header.firstChunk = (word? 16 bytes).map .ofType := by
  -- This is the last of the facts about a head that was read.
  obtain ⟨_, _, _, _, _, chunk⟩ := header?_eq_ok_iff_words.mp read
  exact chunk

/-- Two files that declare the same length and agree up to it and in their heads have the same
version.  All that is read of them is the same just when the head of a first chunk lies within that
length, or neither of them is long enough for one, or both have the same type of chunk there. -/
theorem heads_agree_iff (bytes other : Bytes) (mine its : Header)
    (read : header? bytes = .ok mine) (itsRead : header? other = .ok its)
    (declared : mine.declaredLength = its.declaredLength)
    (agree : bytes.take (max mine.declaredLength.toNat headLength) =
      other.take (max mine.declaredLength.toNat headLength)) :
    mine.version = its.version ∧ mine.declaredLength = its.declaredLength ∧
    (mine = its ↔
      headLength + chunkHeadLength ≤ mine.declaredLength.toNat ∨
      (bytes.length < headLength + chunkHeadLength ∧ other.length < headLength + chunkHeadLength) ∨
      ∃ type, StandsAt type 16 bytes ∧ StandsAt type 16 other) := by
  -- Two heads of one version and one length differ in the first chunk at most, and that is told by
  -- a word.
  have told := header?_eq_ok_iff.mp read
  have itSays := header?_eq_ok_iff.mp itsRead
  have version : mine.version = its.version := told.version.trans itSays.version.symm
  have same : mine = its ↔ word? 16 bytes = word? 16 other := by
    rw [← (Option.map_injective Chunk.ofType_injective).eq_iff, ← firstChunk_eq read,
      ← firstChunk_eq itsRead]
    constructor
    · rintro rfl
      rfl
    · intro chunks
      cases mine
      cases its
      simp_all
  refine ⟨version, declared, same.trans ?_⟩
  constructor
  · intro words
    cases typed : word? 16 bytes with
    | none =>
      have itsMissing : word? 16 other = none := by rw [← words, typed]
      exact .inr (.inl ⟨chunkType_eq_none_iff.mp typed, chunkType_eq_none_iff.mp itsMissing⟩)
    | some type =>
      have itsTyped : word? 16 other = some type := by rw [← words, typed]
      exact .inr (.inr ⟨type, word?_eq_some_iff.mp typed, word?_eq_some_iff.mp itsTyped⟩)
  · rintro (within | ⟨short, itsShort⟩ | ⟨type, there, itsThere⟩)
    · -- The word lies before the end of what the files agree on.
      have before : 16 + 4 ≤ max mine.declaredLength.toNat headLength :=
        Nat.le_trans within (Nat.le_max_left _ _)
      rw [← word?_take before, agree, word?_take before]
    · rw [chunkType_eq_none_iff.mpr short, chunkType_eq_none_iff.mpr itsShort]
    · rw [word?_eq_some_iff.mpr there, word?_eq_some_iff.mpr itsThere]

/-- A file of twenty bytes, all of them declared, whose first chunk is a scene. -/
def wholeFile : Bytes := file 20 0 jsonType []

/-- What is appended to a file that declares its first chunk changes nothing. -/
theorem heads_agree_of_wholeFile :
    header? wholeFile = .ok ⟨2, 20, some .json⟩ ∧
    header? (wholeFile ++ [1, 2, 3, 4]) = .ok ⟨2, 20, some .json⟩ ∧
    wholeFile.take (max (20 : UInt32).toNat headLength) =
      (wholeFile ++ [1, 2, 3, 4]).take (max (20 : UInt32).toNat headLength) ∧
    ((⟨2, 20, some .json⟩ : Header) = ⟨2, 20, some .json⟩ ↔
      headLength + chunkHeadLength ≤ (20 : UInt32).toNat ∨
      (wholeFile.length < headLength + chunkHeadLength ∧
        (wholeFile ++ [1, 2, 3, 4]).length < headLength + chunkHeadLength) ∨
      ∃ type, StandsAt type 16 wholeFile ∧ StandsAt type 16 (wholeFile ++ [1, 2, 3, 4])) :=
  -- Both heads are computed, and the theorem is applied to them.
  ⟨rfl, rfl, rfl, (heads_agree_iff wholeFile (wholeFile ++ [1, 2, 3, 4]) _ _ rfl rfl rfl rfl).2.2⟩

/-- A head alone, which declares nothing after it. -/
def bareHead : Bytes := bytesOf magic ++ bytesOf 2 ++ bytesOf 12

/-- The head of a chunk after all that was declared is read as that of the first chunk. -/
theorem exists_chunk_after_declared :
    ¬ ∀ (bytes other : Bytes) (mine its : Header), header? bytes = .ok mine →
      header? other = .ok its → mine.declaredLength = its.declaredLength →
      bytes.take (max mine.declaredLength.toNat headLength) =
        other.take (max mine.declaredLength.toNat headLength) → mine = its := by
  -- Two files agree in the twelve bytes that they declare, and one of them has eight more.
  intro agree
  have same := agree bareHead (bareHead ++ bytesOf 0 ++ bytesOf jsonType)
    ⟨2, 12, none⟩ ⟨2, 12, some .json⟩ rfl rfl rfl rfl
  exact absurd same (by decide)

end Glb

end SelectorTutorial
