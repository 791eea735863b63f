import SelectorTutorial.Proofs.Text.Utf8
import SelectorTutorial.Settings

/-! Where the settings come from: each field from the first of its sources that says something valid
about it, whatever the sources say about the other fields. -/

namespace SelectorTutorial

namespace Decimal

/-- The digits that are read are those up to the first character that is none. -/
theorem spanDigits_eq (cs : List Char) :
    spanDigits cs =
      ((cs.takeWhile Char.isDigit).map fun c => c.toNat - '0'.toNat,
        cs.dropWhile Char.isDigit) := by
  -- The induction is on the characters, as the digits are read one after the other.
  induction cs with
  | nil => rfl
  | cons c cs ih =>
    rw [spanDigits, digitValue?]
    by_cases digit : c.isDigit = true
    · rw [if_pos digit, List.takeWhile_cons_of_pos digit, List.dropWhile_cons_of_pos digit, ih]
      rfl
    · rw [if_neg digit, List.takeWhile_cons_of_neg digit, List.dropWhile_cons_of_neg digit]
      rfl

/-- The digits that are read write the number that they stand for. -/
theorem toNat_map_digit (cs : List Char) :
    Digits.toNat 10 (cs.map fun c => c.toNat - '0'.toNat) = Nat.ofDigitChars 10 cs 0 := by
  -- Both fold over the digits, with the factors the other way round.
  rw [Digits.toNat, List.foldl_map, Nat.ofDigitChars_eq_foldl]
  simp only [Nat.mul_comm]

end Decimal

namespace Settings

/-! ### Numbers of seconds in words -/

/-- A text writes a number in decimal digits, one at least, with or without a plus before them. -/
def Writes (text : String) (n : Nat) : Prop :=
  ∃ digits, (text.toList = digits ∨ text.toList = '+' :: digits) ∧ digits ≠ [] ∧
    (∀ c ∈ digits, c.isDigit) ∧ Nat.ofDigitChars 10 digits 0 = n

/-- The characters of a text without a plus before them. -/
def unsigned (text : String) : List Char :=
  match text.toList with
  | '+' :: rest => rest
  | cs => cs

/-- A plus is left out of the digits, as it is none. -/
theorem writes_iff {text : String} {n : Nat} :
    Writes text n ↔ unsigned text ≠ [] ∧ (∀ c ∈ unsigned text, c.isDigit) ∧
      Nat.ofDigitChars 10 (unsigned text) 0 = n := by
  -- A plus is no digit, so it cannot be the first of the digits.
  constructor
  · intro ⟨digits, written, nonempty, all, value⟩
    have same : unsigned text = digits := by
      rw [unsigned]
      obtain written | written := written
      · rw [written]
        split
        · exact absurd (all '+' List.mem_cons_self) (by decide)
        · rfl
      · simp only [written]
    rw [same]
    exact ⟨nonempty, all, value⟩
  · intro ⟨nonempty, all, value⟩
    refine ⟨unsigned text, ?_, nonempty, all, value⟩
    rw [unsigned]
    split
    · next rest written => exact .inr written
    · exact .inl rfl

/-- The number that some digits write, if there are any, nothing follows them, and it fits. -/
def fitting? : List Nat × List Char → Option Nat
  | ([], _) => none
  | (digits, []) =>
    if Digits.toNat 10 digits < UInt64.size then some (Digits.toNat 10 digits) else none
  | _ => none

/-- Of a text, the digits are read that follow the plus. -/
theorem seconds?_eq (text : String) :
    seconds? text = fitting? (Decimal.spanDigits (unsigned text)) :=
  -- This is the definition, with the plus taken away first.
  rfl

/-- Whatever follows the digits, they are no number then. -/
theorem fitting?_of_ne_nil {digits : List Nat} {rest : List Char} (follows : rest ≠ []) :
    fitting? (digits, rest) = none := by
  -- Only an empty rest is accepted.
  cases digits with
  | nil => rfl
  | cons d digits =>
    cases rest with
    | nil => exact absurd rfl follows
    | cons c rest => rfl

/-- A text is read as the number that it writes, if that fits 64 bits. -/
theorem seconds?_eq_some_iff {text : String} {n : Nat} :
    seconds? text = some n ↔ Writes text n ∧ n < UInt64.size := by
  -- By whether all characters after the sign are digits.
  rw [writes_iff, seconds?_eq, Decimal.spanDigits_eq]
  by_cases all : ∀ c ∈ unsigned text, c.isDigit
  · have taken : (unsigned text).takeWhile Char.isDigit = unsigned text := by
      simpa using @List.takeWhile_append_of_pos _ Char.isDigit (unsigned text) [] all
    have dropped : (unsigned text).dropWhile Char.isDigit = [] := by
      simpa using @List.dropWhile_append_of_pos _ Char.isDigit (unsigned text) [] all
    rw [taken, dropped, ← Decimal.toNat_map_digit]
    -- All characters are digits: a number is read unless there are none, or it is too large.
    cases shape : unsigned text with
    | nil => simp [fitting?]
    | cons c cs =>
      rw [shape] at all
      simp only [List.map_cons, fitting?, Option.ite_none_right_eq_some, Option.some.injEq]
      constructor
      · rintro ⟨fits, rfl⟩
        exact ⟨⟨List.cons_ne_nil c cs, all, rfl⟩, fits⟩
      · rintro ⟨⟨nonempty, digits, rfl⟩, fits⟩
        exact ⟨fits, rfl⟩
  · -- A character that is no digit is left, and then nothing is read.
    have dropped : (unsigned text).dropWhile Char.isDigit ≠ [] := by
      intro empty
      have kept := List.takeWhile_append_dropWhile (p := Char.isDigit) (l := unsigned text)
      rw [empty, List.append_nil] at kept
      exact all (kept ▸ List.all_eq_true.mp List.all_takeWhile)
    rw [fitting?_of_ne_nil dropped]
    exact ⟨nofun, fun written => absurd written.1.2.1 all⟩

/-! ### Sources -/

/-- The value of a field: what the first of its sources says that says anything about it, and the
default where none does. -/
inductive Decided {α : Type} (default : α) : List (α → Prop) → α → Prop
  /-- There are no more sources. -/
  | left : Decided default [] default
  /-- The first source says it. -/
  | given {source : α → Prop} {sources : List (α → Prop)} {value : α} (told : source value) :
      Decided default (source :: sources) value
  /-- The first source says nothing. -/
  | passed {source : α → Prop} {sources : List (α → Prop)} {value : α}
      (silent : ∀ other, ¬ source other) (below : Decided default sources value) :
      Decided default (source :: sources) value

/-- What a text says about the base. -/
def SaysBase (said : Option String) (base : String) : Prop :=
  ∃ text, said = some text ∧ base = normalizeBase text

/-- What a text says about the number of seconds, blanks around it left aside. -/
def SaysSeconds (said : Option String) (n : Nat) : Prop :=
  ∃ text, said = some text ∧ Writes (Text.trim text) n ∧ n < UInt64.size

/-- What a text says about what is logged. -/
def SaysFilter (said : Option String) (filter : String) : Prop :=
  said = some filter

/-- What a file has about the base. -/
def FileSaysBase (file : Toml.Entries) (base : String) : Prop :=
  ∃ text, file.find? "api_base" = some (.text text) ∧ base = normalizeBase text

/-- What a file has about the number of seconds. -/
def FileSaysSeconds (file : Toml.Entries) (n : Nat) : Prop :=
  file.find? "request_timeout_secs" = some (.integer n)

/-- What a file has about what is logged. -/
def FileSaysFilter (file : Toml.Entries) (filter : String) : Prop :=
  file.find? "log_filter" = some (.text filter)

/-- Each field of the settings is decided by its own sources, the one that counts most first. -/
structure DecidedBy (file : Toml.Entries) (env : Environment) (base : Option String)
    (settings : Settings) : Prop where
  /-- The command line, two variables and the file say something about the base. -/
  apiBase : Decided "http://127.0.0.1:8000/api"
    [SaysBase base, SaysBase (env "APP__API_BASE"), SaysBase (env "CQ_TUTORIAL_API_BASE"),
      FileSaysBase file] settings.apiBase
  /-- A variable and the file say something about the number of seconds. -/
  timeoutSeconds : Decided 30
    [SaysSeconds (env "APP__REQUEST_TIMEOUT_SECS"), FileSaysSeconds file] settings.timeoutSeconds
  /-- A variable and the file say something about what is logged. -/
  logFilter : Decided "info"
    [SaysFilter (env "APP__LOG_FILTER"), FileSaysFilter file] settings.logFilter

/-- What the file holds that settings are read from.  One that cannot be understood is like an empty
one, and so is one that is missing and was not named. -/
inductive Holds (files : Files) (path : Option String) : Toml.Entries → Prop
  | parsed {content : String} {entries : Toml.Entries}
      (there : files (path.getD "tutorial.toml") = some (Utf8.encode content))
      (parses : Toml.ofText? content = some entries) : Holds files path entries
  | unparsable {content : String} {entries : Toml.Entries}
      (there : files (path.getD "tutorial.toml") = some (Utf8.encode content))
      (faulty : Toml.ofText? content = none) (empty : Toml.ofText? "" = some entries) :
      Holds files path entries
  | missing {entries : Toml.Entries} (unnamed : path = none)
      (unread : ∀ content, files "tutorial.toml" ≠ some (Utf8.encode content))
      (empty : Toml.ofText? "" = some entries) : Holds files path entries

variable {α : Type} {default below value : α} {source : α → Prop} {sources : List (α → Prop)}
  {files : Files} {path base : Option String} {env : Environment} {file : Toml.Entries}

/-- Where no source is left, the default decides. -/
theorem decided_nil : Decided default [] value ↔ value = default := by
  -- Without sources there is one rule left.
  constructor
  · intro decided
    cases decided
    rfl
  · rintro rfl
    exact .left

/-- A source that says one thing at most stands above those that are left. -/
theorem decided_cons {said : Option α} (same : ∀ other, source other ↔ said = some other)
    (decided : ∀ other, Decided default sources other ↔ other = below) :
    Decided default (source :: sources) value ↔ value = said.getD below := by
  -- The source says something, which decides, or nothing, and those below decide.
  cases said with
  | none =>
    have silent (other : α) : ¬ source other := fun told => nomatch (same other).mp told
    rw [Option.getD_none, ← decided value]
    constructor
    · intro found
      cases found with
      | given told => exact absurd told (silent value)
      | passed _ below => exact below
    · exact .passed silent
  | some x =>
    have told : source x := (same x).mpr rfl
    rw [Option.getD_some]
    constructor
    · intro found
      cases found with
      | given told => exact (Option.some.inj ((same value).mp told)).symm
      | passed silent _ => exact absurd told (silent x)
    · rintro rfl
      exact .given told

/-- A text says a base when it is normalized to it. -/
theorem saysBase_iff {said : Option String} (other : String) :
    SaysBase said other ↔ said.map normalizeBase = some other := by
  -- The text may be missing, and then nothing is said.
  simp [SaysBase, Option.map_eq_some_iff, eq_comm]

/-- A text says a number of seconds when it is read as it. -/
theorem saysSeconds_iff {said : Option String} (n : Nat) :
    SaysSeconds said n ↔ (said.bind fun text => seconds? (Text.trim text)) = some n := by
  -- The text may be missing, and then nothing is said.
  simp only [SaysSeconds, Option.bind_eq_some_iff, seconds?_eq_some_iff]

/-- A text is found in a file under a name just when it stands there. -/
theorem textIn?_eq_some_iff {name text : String} :
    textIn? file name = some text ↔ file.find? name = some (.text text) := by
  -- Anything but a text is passed over.
  rw [textIn?]
  split
  · next found => simp [found]
  · next other =>
    constructor
    · intro impossible
      cases impossible
    · exact fun found => absurd found (other text)

/-- A number of seconds is found in a file under a name just when it stands there. -/
theorem secondsIn?_eq_some_iff {name : String} {n : Nat} :
    secondsIn? file name = some n ↔ file.find? name = some (.integer n) := by
  -- Anything but an integer is passed over, and so are those below zero.
  rw [secondsIn?]
  split
  · next i found =>
    rw [found, Option.some.injEq, Toml.integer.injEq]
    split
    · next positive =>
      rw [Option.some.injEq]
      omega
    · next negative =>
      constructor
      · intro impossible
        cases impossible
      · omega
  · next other =>
    constructor
    · intro impossible
      cases impossible
    · exact fun found => absurd found (other n)

/-- A file says a base when a text stands there that is normalized to it. -/
theorem fileSaysBase_iff (other : String) :
    FileSaysBase file other ↔ (textIn? file "api_base").map normalizeBase = some other := by
  -- The name is the one that is looked up.
  simp only [FileSaysBase, Option.map_eq_some_iff, textIn?_eq_some_iff, eq_comm (a := other)]

/-- What a file says that can be understood. -/
def Layer.ofEntries (entries : Toml.Entries) : Layer where
  apiBase := (textIn? entries "api_base").map normalizeBase
  timeoutSeconds := secondsIn? entries "request_timeout_secs"
  logFilter := textIn? entries "log_filter"

/-- The base has four sources. -/
theorem decided_apiBase_iff {value : String} :
    Decided "http://127.0.0.1:8000/api"
      [SaysBase base, SaysBase (env "APP__API_BASE"), SaysBase (env "CQ_TUTORIAL_API_BASE"),
        FileSaysBase file] value ↔
      value = (ofLayers [.ofEntries file, .ofEnvironment env, .ofBase base]).apiBase := by
  -- The two variables for the base are in one layer, but they are sources of their own.
  have both (below : String) :
      ((env "APP__API_BASE").or (env "CQ_TUTORIAL_API_BASE") |>.map normalizeBase).getD below =
        ((env "APP__API_BASE").map normalizeBase).getD
          (((env "CQ_TUTORIAL_API_BASE").map normalizeBase).getD below) := by
    cases env "APP__API_BASE" <;> rfl
  have layered : (ofLayers [.ofEntries file, .ofEnvironment env, .ofBase base]).apiBase =
      (base.map normalizeBase).getD (((env "APP__API_BASE").map normalizeBase).getD
        (((env "CQ_TUTORIAL_API_BASE").map normalizeBase).getD
          (((textIn? file "api_base").map normalizeBase).getD "http://127.0.0.1:8000/api"))) := by
    rw [← both]
    rfl
  rw [layered]
  exact decided_cons saysBase_iff fun _ => decided_cons saysBase_iff fun _ =>
    decided_cons saysBase_iff fun _ => decided_cons fileSaysBase_iff fun _ => decided_nil

/-- The number of seconds has two sources, and the command line is none of them. -/
theorem decided_timeoutSeconds_iff (base : Option String) {n : Nat} :
    Decided 30 [SaysSeconds (env "APP__REQUEST_TIMEOUT_SECS"), FileSaysSeconds file] n ↔
      n = (ofLayers [.ofEntries file, .ofEnvironment env, .ofBase base]).timeoutSeconds :=
  -- Source by source, from the highest down to the default.
  decided_cons saysSeconds_iff fun _ =>
    decided_cons (fun _ => secondsIn?_eq_some_iff.symm) fun _ => decided_nil

/-- What is logged has two sources, and the command line is none of them. -/
theorem decided_logFilter_iff (base : Option String) {value : String} :
    Decided "info" [SaysFilter (env "APP__LOG_FILTER"), FileSaysFilter file] value ↔
      value = (ofLayers [.ofEntries file, .ofEnvironment env, .ofBase base]).logFilter :=
  -- Source by source, from the highest down to the default.
  decided_cons (fun _ => Iff.rfl) fun _ =>
    decided_cons (fun _ => textIn?_eq_some_iff.symm) fun _ => decided_nil

/-- Three layers above each other decide each field by itself. -/
theorem decidedBy_iff {settings : Settings} :
    DecidedBy file env base settings ↔
      settings = ofLayers [.ofEntries file, .ofEnvironment env, .ofBase base] := by
  -- There are three fields, and each has its own sources.
  constructor
  · intro decided
    have sameBase := decided_apiBase_iff.mp decided.apiBase
    have sameSeconds := (decided_timeoutSeconds_iff base).mp decided.timeoutSeconds
    have sameFilter := (decided_logFilter_iff base).mp decided.logFilter
    cases settings
    rw [Settings.mk.injEq]
    exact ⟨sameBase, sameSeconds, sameFilter⟩
  · intro same
    exact {
      apiBase := decided_apiBase_iff.mpr (congrArg Settings.apiBase same)
      timeoutSeconds :=
        (decided_timeoutSeconds_iff base).mpr (congrArg Settings.timeoutSeconds same)
      logFilter := (decided_logFilter_iff base).mpr (congrArg Settings.logFilter same) }

/-! ### Loading -/

/-- A file can be read as a text just when its bytes are those of a text. -/
theorem textOf?_eq_some_iff {name content : String} :
    textOf? files name = some content ↔ files name = some (Utf8.encode content) := by
  -- Bytes are read as a text just when they are its encoding.
  simp only [textOf?, Option.bind_eq_some_iff, Utf8.decode?_eq_some_iff_eq_encode]
  constructor
  · rintro ⟨bytes, there, rfl⟩
    exact there
  · exact fun there => ⟨_, there, rfl⟩

/-- A file cannot be read as a text just when its bytes are those of none. -/
theorem textOf?_eq_none_iff {name : String} :
    textOf? files name = none ↔ ∀ content, files name ≠ some (Utf8.encode content) := by
  -- Nothing is read just when no text is.
  simp only [Option.eq_none_iff_forall_ne_some, Ne, textOf?_eq_some_iff]

/-- There is nothing in an empty file. -/
theorem ofText?_empty : Toml.ofText? "" = some [] :=
  -- The empty text has no lines.
  rfl

/-- The layer of a file is what the file holds. -/
theorem ofFile_eq (content : String) :
    Layer.ofFile content = .ofEntries ((Toml.ofText? content).getD []) := by
  -- A file that cannot be understood counts as an empty one.
  rw [Layer.ofFile]
  cases Toml.ofText? content <;> rfl

/-- A text is read as what it holds, and as nothing if it cannot be understood. -/
theorem holds_iff_of_text {content : String} {entries : Toml.Entries}
    (read : textOf? files (path.getD defaultFile) = some content) :
    Holds files path entries ↔ entries = (Toml.ofText? content).getD [] := by
  -- There is only one text whose bytes these are, and it parses or it does not.
  have there := textOf?_eq_some_iff.mp read
  have unique {other : String}
      (others : files (path.getD "tutorial.toml") = some (Utf8.encode other)) : other = content :=
    Option.some.inj ((textOf?_eq_some_iff.mpr others).symm.trans read)
  constructor
  · intro holds
    cases holds with
    | parsed others parses =>
      rw [← unique others, parses, Option.getD_some]
    | unparsable others faulty empty =>
      rw [← unique others, faulty, Option.getD_none]
      exact (Option.some.inj (ofText?_empty.symm.trans empty)).symm
    | missing unnamed unread _ =>
      subst unnamed
      exact absurd there (unread content)
  · rintro rfl
    cases found : Toml.ofText? content with
    | none => exact .unparsable there found ofText?_empty
    | some entries => exact .parsed there found

/-- Where there is no text, nothing is held, and that only if no file was named. -/
theorem holds_iff_of_no_text {entries : Toml.Entries}
    (unread : textOf? files (path.getD defaultFile) = none) :
    Holds files path entries ↔ path = none ∧ entries = [] := by
  -- Two of the three rules are about a text that is there.
  have missing := textOf?_eq_none_iff.mp unread
  constructor
  · intro holds
    cases holds with
    | parsed there _ => exact absurd there (missing _)
    | unparsable there _ _ => exact absurd there (missing _)
    | missing unnamed _ empty =>
      exact ⟨unnamed, (Option.some.inj (ofText?_empty.symm.trans empty)).symm⟩
  · rintro ⟨rfl, rfl⟩
    exact .missing rfl missing ofText?_empty

/-- The lowest layer is what the file holds, if there is anything that it holds. -/
theorem fileLayer_eq_ok_iff {layer : Layer} :
    fileLayer files path = .ok layer ↔
      ∃ entries, Holds files path entries ∧ layer = .ofEntries entries := by
  -- A file that was named and one that was not are read alike, but only the latter may be missing.
  cases read : textOf? files (path.getD defaultFile) with
  | some content =>
    have layered : fileLayer files path = .ok (.ofFile content) := by
      cases path with
      | none => rw [fileLayer, show textOf? files defaultFile = some content from read]; rfl
      | some name => rw [fileLayer, show textOf? files name = some content from read]
    simp only [layered, ofFile_eq, holds_iff_of_text read, exists_eq_left, Except.ok.injEq,
      eq_comm (a := layer)]
  | none =>
    simp only [holds_iff_of_no_text read, and_assoc]
    cases path with
    | none =>
      have layered : fileLayer files none = .ok (.ofEntries []) := by
        rw [fileLayer, show textOf? files defaultFile = none from read]
        rfl
      simp [layered, eq_comm (a := layer)]
    | some name =>
      have layered : fileLayer files (some name) = .error ⟨name⟩ := by
        rw [fileLayer, show textOf? files name = none from read]
      simp [layered]

/-- There is no lowest layer only where a file was named that is not a text. -/
theorem fileLayer_eq_error_iff {fault : Unreadable} :
    fileLayer files path = .error fault ↔
      path = some fault.path ∧ ∀ content, files fault.path ≠ some (Utf8.encode content) := by
  -- The file is named and read, or named and not read, or not named.
  rw [← textOf?_eq_none_iff]
  cases path with
  | none => simp [fileLayer]
  | some name =>
    rw [fileLayer, Option.some.injEq]
    cases read : textOf? files name with
    | none =>
      constructor
      · rintro ⟨⟩
        exact ⟨rfl, read⟩
      · rintro ⟨rfl, _⟩
        rfl
    | some content =>
      constructor
      · rintro ⟨⟩
      · rintro ⟨rfl, unread⟩
        rw [read] at unread
        cases unread

/-- Settings are loaded just when the file that was named can be read, or none was named, and then
each field is decided by its own sources: by the first one that says something valid about it, or by
its default.  A request may always take a second at least. -/
theorem loaded_exactly (files : Files) (env : Environment) (path base : Option String)
    (settings : Settings) (fault : Unreadable) :
    (load files env path base = .ok settings ↔
      ∃ file, Holds files path file ∧ DecidedBy file env base settings) ∧
    (load files env path base = .error fault ↔
      path = some fault.path ∧ ∀ content, files fault.path ≠ some (Utf8.encode content)) ∧
    0 < settings.effectiveTimeout ∧
    settings.effectiveTimeout =
      if settings.timeoutSeconds = 0 then 1 else settings.timeoutSeconds := by
  refine ⟨?_, ?_, ?_, ?_⟩
  · -- The layers above the file are put over what the file holds.
    have loaded : load files env path base = .ok settings ↔
        ∃ layer, fileLayer files path = .ok layer ∧
          settings = ofLayers [layer, .ofEnvironment env, .ofBase base] := by
      rw [load]
      cases fileLayer files path <;> simp [Except.map, eq_comm]
    simp only [loaded, fileLayer_eq_ok_iff, decidedBy_iff]
    constructor
    · rintro ⟨layer, ⟨file, holds, rfl⟩, same⟩
      exact ⟨file, holds, same⟩
    · rintro ⟨file, holds, same⟩
      exact ⟨_, ⟨file, holds, rfl⟩, same⟩
  · have failed :
        load files env path base = .error fault ↔ fileLayer files path = .error fault := by
      rw [load]
      cases fileLayer files path <;> simp [Except.map]
    rw [failed, fileLayer_eq_error_iff]
  · have atLeast : 1 ≤ settings.effectiveTimeout := Nat.le_max_right _ _
    exact atLeast
  · rw [effectiveTimeout]
    split <;> omega

end Settings

end SelectorTutorial
