import SelectorTutorial.Proofs.Text.Blank
import SelectorTutorial.Proofs.Text.Case
import SelectorTutorial.Upload

/-! Which names say that a file can be compiled: those whose last part has one of three
extensions. -/

namespace SelectorTutorial

namespace Upload

/-- A part of a path that leads to where one already is. -/
def GoesNowhere (part : List Char) : Prop :=
  part = [] ∨ part = ['.']

/-- The last part of a path between slashes.  Parts that go nowhere do not count, unless the path
begins with them. -/
def LastPart (path part : List Char) : Prop :=
  ∃ before after, path.splitOn '/' = before ++ part :: after ∧
    (before = [] ∨ ¬ GoesNowhere part) ∧ ∀ p ∈ after, GoesNowhere p

variable {path part name ext : List Char}

/-! ### Parts of a path -/

/-- The parts of a path are those between slashes that go somewhere. -/
theorem pathParts_eq (path : List Char) :
    pathParts path = (path.splitOn '/').filter fun part => part != [] && part != ['.'] := by
  -- The pieces are those of the library's split.
  rw [pathParts, Text.pieces_eq_splitOnP, List.splitOn_eq_splitOnP]

/-- Around a slash the parts of a path are those before it and those after it. -/
theorem pathParts_append (path rest : List Char) :
    pathParts (path ++ '/' :: rest) = pathParts path ++ pathParts rest := by
  -- The slash cuts, and dropping parts goes piece by piece.
  rw [pathParts, Text.pieces_append rfl, List.filter_append]
  rfl

/-- Slashes at the end of a path add no parts to it. -/
theorem pathParts_append_slashes (path : List Char) (n : Nat) :
    pathParts (path ++ List.replicate n '/') = pathParts path := by
  -- By induction on the slashes.
  induction n with
  | zero => rw [List.replicate_zero, List.append_nil]
  | succ n ih =>
    -- Another slash has nothing between it and the next one.
    rw [List.replicate_succ', ← List.append_assoc, pathParts_append, ih]
    exact List.append_nil _

/-- What is dropped from the parts of a path is what goes nowhere. -/
theorem goesNowhere_iff : (!(part != [] && part != ['.'])) = true ↔ GoesNowhere part := by
  -- Both say that a part is empty or a dot.
  simp [GoesNowhere, Bool.not_and]

/-- The last of the parts is the last part of the path that goes somewhere. -/
theorem getLast?_pathParts_eq_some_iff :
    (pathParts path).getLast? = some part ↔ LastPart path part ∧ ¬ GoesNowhere part := by
  -- Seen from the end of the path, it is the first one that goes somewhere.
  rw [pathParts_eq, List.getLast?_filter, List.find?_eq_some_iff_append, ← goesNowhere_iff,
    Bool.not_eq_true, Bool.not_eq_false', and_comm]
  simp only [goesNowhere_iff]
  refine and_congr_left fun goes => ⟨?_, ?_⟩
  · rintro ⟨after, before, split, nowhere⟩
    refine ⟨before.reverse, after.reverse, ?_, .inr ?_, fun p inside => ?_⟩
    · rw [← List.reverse_reverse (path.splitOn '/'), split]
      simp
    · rwa [← goesNowhere_iff, Bool.not_eq_true, Bool.not_eq_false']
    · exact nowhere p (List.mem_reverse.mp inside)
  · rintro ⟨before, after, split, -, nowhere⟩
    refine ⟨after.reverse, before.reverse, by simp [split], fun p inside => ?_⟩
    exact nowhere p (List.mem_reverse.mp inside)

/-- The file that a path leads to is its last part, if that goes somewhere and not up. -/
theorem baseName?_eq_some_iff :
    baseName? path = some part ↔
      LastPart path part ∧ ¬ GoesNowhere part ∧ part ≠ ['.', '.'] := by
  -- The last of the parts that are left is the last part that goes somewhere.
  rw [baseName?, Option.filter_eq_some_iff, getLast?_pathParts_eq_some_iff, bne_iff_ne, and_assoc]

/-! ### Extensions -/

/-- What follows a dot that has something before it and no dot after it is the extension. -/
theorem extension?_append (stem : List Char) (undotted : '.' ∉ ext) :
    extension? (stem ++ '.' :: ext) = if stem = [] then none else some ext := by
  -- Read from its end, the name goes on with the extension up to the dot.
  have last : ((stem ++ '.' :: ext).reverse.takeWhile (· != '.')).reverse = ext := by
    have plain : ∀ c ∈ ext.reverse, (c != '.') = true := by
      intro c inside
      rw [List.mem_reverse] at inside
      exact bne_iff_ne.mpr fun dot => undotted (dot ▸ inside)
    rw [List.reverse_append, List.reverse_cons, List.append_assoc, List.singleton_append,
      List.takeWhile_append_of_pos plain]
    simp
  have before :
      (stem ++ '.' :: ext).take ((stem ++ '.' :: ext).length - ext.length - 1) = stem := by
    have short : (stem ++ '.' :: ext).length - ext.length - 1 = stem.length := by
      simp only [List.length_append, List.length_cons]
      omega
    rw [short, List.take_left]
  simp only [extension?, last, before, List.isEmpty_iff]

/-- A name without a dot has no extension. -/
theorem extension?_of_undotted (undotted : '.' ∉ name) : extension? name = none := by
  -- The search for a dot runs through to the front, so there is no stem.
  have whole : (name.reverse.takeWhile (· != '.')).reverse = name := by
    rw [List.takeWhile_eq_self_iff.mpr, List.reverse_reverse]
    intro c inside
    rw [List.mem_reverse] at inside
    exact bne_iff_ne.mpr fun dot => undotted (dot ▸ inside)
  simp [extension?, whole]

/-- A name has an extension just when it is something, a dot, and the extension without a dot. -/
theorem extension?_eq_some_iff :
    extension? name = some ext ↔ ∃ stem, stem ≠ [] ∧ name = stem ++ '.' :: ext ∧ '.' ∉ ext := by
  -- By whether there is a dot at all.
  constructor
  · intro found
    by_cases dotted : '.' ∈ name
    · -- The name is cut at its last dot.
      obtain ⟨after, before, split, undotted⟩ :=
        List.eq_append_cons_of_mem (List.mem_reverse.mpr dotted)
      have cut : name = before.reverse ++ '.' :: after.reverse := by
        rw [← List.reverse_reverse name, split]
        simp
      rw [cut, extension?_append _ (by simpa using undotted)] at found
      split at found
      · cases found
      · next solid =>
        cases found
        exact ⟨_, solid, cut, by simpa using undotted⟩
    · rw [extension?_of_undotted dotted] at found
      cases found
  · rintro ⟨stem, solid, rfl, undotted⟩
    rw [extension?_append stem undotted, if_neg solid]

/-! ### Capitals -/

/-- A path in small letters has the parts of the path in small letters. -/
theorem pathParts_map_toLower (path : List Char) :
    pathParts (path.map Char.toLower) = (pathParts path).map (List.map Char.toLower) := by
  -- Neither a slash nor a dot is a letter, so that small letters are cut where the others are.
  have slash : (· == '/') ∘ Char.toLower = (· == '/') := by
    funext c
    rw [Function.comp_apply, Bool.eq_iff_iff, beq_iff_eq, beq_iff_eq,
      Text.toLower_eq_iff (by decide)]
  have nowhere : (fun part : List Char => part != [] && part != ['.']) ∘ List.map Char.toLower =
      fun part => part != [] && part != ['.'] := by
    funext part
    rw [Function.comp_apply, Bool.eq_iff_iff]
    simp [List.map_eq_singleton_iff, Text.toLower_eq_iff]
  rw [pathParts, Text.pieces_map, slash, List.filter_map, nowhere]
  rfl

/-- A path in small letters leads to the file in small letters. -/
theorem baseName?_map_toLower (path : List Char) :
    baseName? (path.map Char.toLower) = (baseName? path).map (List.map Char.toLower) := by
  -- Slashes and dots are no capitals, so the parts stay where they are.
  have up : (· != ['.', '.']) ∘ List.map Char.toLower = (· != ['.', '.']) := by
    funext part
    rw [Function.comp_apply, Bool.eq_iff_iff]
    simp [List.map_eq_cons_iff, Text.toLower_eq_iff]
  rw [baseName?, pathParts_map_toLower, List.getLast?_map, Option.filter_map, up]
  rfl

/-- A name in small letters has the extension in small letters. -/
theorem extension?_map_toLower (name : List Char) :
    extension? (name.map Char.toLower) = (extension? name).map (List.map Char.toLower) := by
  -- The dot stays where it is, and so do the lengths around it.
  have dot : (· != '.') ∘ Char.toLower = (· != '.') := by
    funext c
    rw [Function.comp_apply, Bool.eq_iff_iff, bne_iff_ne, bne_iff_ne, ne_eq, ne_eq,
      Text.toLower_eq_iff (by decide)]
  simp only [extension?, ← List.map_reverse, List.takeWhile_map, dot, List.length_map,
    ← List.map_take, List.isEmpty_map]
  split <;> simp

/-- It makes no difference to the extension whether a name has capitals. -/
theorem extension_lowerAscii (u : Upload) :
    ({ u with filename := Text.lowerAscii u.filename } : Upload).extension = u.extension := by
  -- The extension is taken in small letters anyway.
  have chars : (Text.lowerAscii u.filename).toList = u.filename.toList.map Char.toLower :=
    String.toList_ofList
  simp only [extension, chars, baseName?_map_toLower]
  cases baseName? u.filename.toList with
  | none => rfl
  | some name =>
    simp only [Option.map_some, Option.bind_some, extension?_map_toLower, Option.map_map,
      Function.comp_def, Text.lowerAscii_map_toLower]

/-! ### Files that can be compiled -/

/-- A file can be compiled just when its path leads to a name with one of the extensions. -/
theorem isSupported_iff {u : Upload} :
    u.isSupported = true ↔ ∃ name ext, baseName? u.filename.toList = some name ∧
      extension? name = some ext ∧ Text.lowerAscii (.ofList ext) ∈ supportedExtensions := by
  -- The name and the extension are looked up one after the other.
  simp only [isSupported, extension, Option.any_eq_true, Option.map_eq_some_iff,
    Option.bind_eq_some_iff, List.contains_iff_mem]
  constructor
  · rintro ⟨_, ⟨ext, ⟨name, leads, has⟩, rfl⟩, listed⟩
    exact ⟨name, ext, leads, has, listed⟩
  · rintro ⟨name, ext, leads, has, listed⟩
    exact ⟨_, ⟨ext, ⟨name, leads, has⟩, rfl⟩, listed⟩

/-- Where two paths lead to the same file, it can be compiled under both or under neither. -/
theorem isSupported_of_baseName? {u v : Upload}
    (same : baseName? v.filename.toList = baseName? u.filename.toList) :
    v.isSupported = u.isSupported := by
  -- Nothing else of the path is looked at.
  rw [isSupported, isSupported, extension, extension, same]

/-- A file can be compiled just when its name is something, a dot and one of the extensions. -/
theorem isSupported_iff_lastPart {u : Upload} :
    u.isSupported = true ↔ ∃ part stem ext, LastPart u.filename.toList part ∧ part ≠ ['.', '.'] ∧
      part = stem ++ '.' :: ext ∧ stem ≠ [] ∧ '.' ∉ ext ∧
      Text.lowerAscii (.ofList ext) ∈ supportedExtensions := by
  -- The name is the last part that does not go up, and it is cut at its last dot.
  rw [isSupported_iff]
  constructor
  · rintro ⟨part, ext, leads, has, listed⟩
    obtain ⟨last, -, down⟩ := baseName?_eq_some_iff.mp leads
    obtain ⟨stem, solid, cut, undotted⟩ := extension?_eq_some_iff.mp has
    exact ⟨part, stem, ext, last, down, cut, solid, undotted, listed⟩
  · rintro ⟨part, stem, ext, last, down, rfl, solid, undotted, listed⟩
    have goes : ¬ GoesNowhere (stem ++ '.' :: ext) := by
      simp [GoesNowhere, List.append_eq_singleton_iff, solid]
    exact ⟨_, ext, baseName?_eq_some_iff.mpr ⟨last, goes, down⟩,
      extension?_eq_some_iff.mpr ⟨stem, solid, rfl, undotted⟩, listed⟩

/-- Capitals make no difference. -/
theorem isSupported_of_sameIgnoringCase {u : Upload} {name : String}
    (same : Text.sameIgnoringCase name u.filename = true) :
    ({ u with filename := name } : Upload).isSupported = u.isSupported := by
  -- Both names are the same in small letters.
  have same : Text.lowerAscii name = Text.lowerAscii u.filename := beq_iff_eq.mp same
  have small := extension_lowerAscii { u with filename := name }
  rw [same, extension_lowerAscii u] at small
  rw [isSupported, isSupported, small]

/-- Folders before a name that leads somewhere make no difference. -/
theorem isSupported_of_folders {u : Upload} (folders : String)
    (last : LastPart u.filename.toList part) (goes : ¬ GoesNowhere part) :
    ({ u with filename := folders ++ "/" ++ u.filename } : Upload).isSupported =
      u.isSupported := by
  refine isSupported_of_baseName? ?_
  have found := getLast?_pathParts_eq_some_iff.mpr ⟨last, goes⟩
  -- The last part of the name is also the last part of the whole path.
  have chars : (folders ++ "/" ++ u.filename).toList =
      folders.toList ++ '/' :: u.filename.toList := by
    simp
  rw [baseName?, baseName?, chars, pathParts_append, List.getLast?_append, found, Option.some_or]

/-- Slashes after a name make no difference. -/
theorem isSupported_of_slashes (u : Upload) (n : Nat) :
    ({ u with filename := u.filename ++ .ofList (List.replicate n '/') } : Upload).isSupported =
      u.isSupported := by
  -- Behind a slash there are only empty parts, which go nowhere.
  refine isSupported_of_baseName? ?_
  rw [String.toList_append, String.toList_ofList, baseName?, pathParts_append_slashes, baseName?]

/-- A name that is nothing but a dot and an extension is refused. -/
theorem not_isSupported_of_dotted {u : Upload} (some : ext ≠ []) (undotted : '.' ∉ ext)
    (last : LastPart u.filename.toList ('.' :: ext)) : u.isSupported = false := by
  -- The name is the last part of the path, so it is what the extension is looked for in.
  have goes : ¬ GoesNowhere ('.' :: ext) := by simp [GoesNowhere, some]
  have down : '.' :: ext ≠ ['.', '.'] := by
    rintro same
    cases same
    exact undotted (List.mem_singleton_self _)
  have leads := baseName?_eq_some_iff.mpr ⟨last, goes, down⟩
  -- Nothing stands before the dot.
  have without : extension? ('.' :: ext) = none := extension?_append [] undotted
  rw [isSupported, extension, leads, Option.bind_some, without]
  rfl

/-- A file can be compiled just when the last part of its path does not go up and is something, a
dot, and one of the three extensions, in capitals or not.  Capitals, folders before a name that
leads somewhere and slashes after it make no difference, and a name that is nothing but a dot and an
extension is refused. -/
theorem isSupported_exactly (u : Upload) :
    (u.isSupported = true ↔ ∃ part stem ext, LastPart u.filename.toList part ∧ part ≠ ['.', '.'] ∧
      part = stem ++ '.' :: ext ∧ stem ≠ [] ∧ '.' ∉ ext ∧
      Text.lowerAscii (.ofList ext) ∈ ["step", "stp", "stl"]) ∧
    (∀ name, Text.sameIgnoringCase name u.filename = true →
      ({ u with filename := name } : Upload).isSupported = u.isSupported) ∧
    (∀ folders part, LastPart u.filename.toList part → ¬ GoesNowhere part →
      ({ u with filename := folders ++ "/" ++ u.filename } : Upload).isSupported =
        u.isSupported) ∧
    (∀ n,
      ({ u with filename := u.filename ++ .ofList (List.replicate n '/') } : Upload).isSupported =
        u.isSupported) ∧
    ∀ ext, ext ≠ [] → '.' ∉ ext → LastPart u.filename.toList ('.' :: ext) →
      u.isSupported = false := by
  -- Each of the parts has its own lemma.
  refine ⟨isSupported_iff_lastPart, ?capitals, ?folders, isSupported_of_slashes u, ?dotted⟩
  case capitals => exact fun _ => isSupported_of_sameIgnoringCase
  case folders => exact fun folders _ => isSupported_of_folders folders
  case dotted => exact fun _ => not_isSupported_of_dotted

example : ({ filename := "parts/Box.v2.STL//", content := [] } : Upload).isSupported = true := by
  decide

example : ({ filename := "parts/.stl", content := [] } : Upload).isSupported = false := by
  decide

end Upload

end SelectorTutorial
