import SelectorTutorial.DisplayMode
import SelectorTutorial.Proofs.Json.Fields
import SelectorTutorial.Proofs.Json.Sound

/-! What is written as JSON is read back as it was. -/

namespace SelectorTutorial

namespace Json

variable {α : Type} {name : String} {read : Json → Option α} {write : α → Json}

/-- A member that is left out when it has no value is the one value under its name, or none. -/
@[simp]
theorem membersNamed_memberIfSome_self (name : String) (write : α → Json) (value : Option α) :
    membersNamed name (memberIfSome name write value) = (value.map write).toList := by
  -- Without a value there is no member, else there is just this one.
  cases value with
  | none => rfl
  | some value => exact membersNamed_cons_self name (write value) []

/-- A member that can be left out is none under any other name. -/
@[simp]
theorem membersNamed_memberIfSome_of_ne {key : String} (other : key ≠ name) (write : α → Json)
    (value : Option α) : membersNamed name (memberIfSome key write value) = [] := by
  -- The only member that can be there has its own name.
  cases value with
  | none => rfl
  | some value => exact membersNamed_cons_of_ne other (write value) []

/-- A value that is read back and is never null can be left out or not. -/
theorem sole?_toList (value : Option α) (back : ∀ a ∈ value, read (write a) = some a)
    (present : ∀ a ∈ value, write a ≠ .null) :
    sole? (some none) (nullable? read) (value.map write).toList = some value := by
  -- Without a value the member is missing, which is read as nothing too.
  cases value with
  | none => rfl
  | some a =>
    change nullable? read (write a) = _
    rw [nullable?_of_ne (present a rfl), back a rfl]
    rfl

/-- A missing value is written as null, and read back from that. -/
theorem nullable?_ofOption {value : Option α} (back : ∀ a ∈ value, read (write a) = some a)
    (present : ∀ a ∈ value, write a ≠ .null) :
    nullable? read (ofOption write value) = some value := by
  -- Only nothing is written as null.
  cases value with
  | none => rfl
  | some a =>
    rw [ofOption, nullable?_of_ne (present a rfl), back a rfl]
    rfl

/-- A list whose items are read back is. -/
theorem listOf?_map (items : List α) (back : ∀ a ∈ items, read (write a) = some a) :
    listOf? read (.list (items.map write)) = some items := by
  -- Item by item, each of which is read back.
  rw [listOf?]
  induction items with
  | nil => rfl
  | cons item items ih =>
    obtain ⟨first, others⟩ := List.forall_mem_cons.mp back
    rw [List.map_cons, List.mapM_cons, first, ih others]
    rfl

/-- A text is read back. -/
@[simp]
theorem text?_text (s : String) : text? (.text s) = some s := rfl

/-- A list of texts is read back. -/
@[simp]
theorem listOf?_ofTexts (texts : List String) : listOf? text? (ofTexts texts) = some texts :=
  -- Each text is.
  listOf?_map _ fun s _ => text?_text s

/-- A finite number is carried as it is. -/
theorem binary64?_ofBinary64 {x : Binary64} (finite : x.isFinite) :
    binary64? (ofBinary64 x) = some x := by
  -- Only numbers that are not finite are written as null.
  rw [ofBinary64, if_pos finite]
  rfl

/-- A finite number is not written as null. -/
theorem ofBinary64_ne_null {x : Binary64} (finite : x.isFinite) : ofBinary64 x ≠ .null := by
  -- Only numbers that are not finite are.
  rw [ofBinary64, if_pos finite]
  exact nofun

end Json

/-- The id of a lesson is read back. -/
@[simp]
theorem Lesson.Id.ofJson?_toJson (id : Lesson.Id) : Lesson.Id.ofJson? id.toJson = some id := rfl

/-- The id of an example is read back. -/
@[simp]
theorem Example.Id.ofJson?_toJson (id : Example.Id) : Example.Id.ofJson? id.toJson = some id := rfl

/-- The id of a model is read back. -/
@[simp]
theorem Model.Id.ofJson?_toJson (id : Model.Id) : Model.Id.ofJson? id.toJson = some id := rfl

/-- The id of a shape is read back. -/
@[simp]
theorem Shape.Id.ofJson?_toJson (id : Shape.Id) : Shape.Id.ofJson? id.toJson = some id := rfl

/-- A count is read back. -/
@[simp]
theorem Selection.Counts.count?_ofNat (n : UInt32) : count? (.ofNat n.toNat) = some n := by
  -- Every 32-bit number passes the check, and is wrapped to itself.
  have fits : (n.toNat : Int) ≤ largest := Int.ofNat_le.mpr (Nat.le_of_lt_succ n.toNat_lt)
  rw [count?]
  simp [Json.ofNat, Json.int?, fits]

/-- A hash is read back. -/
@[simp]
theorem Shape.hash?_ofInt (hash : Int64) : hash? (.ofInt hash.toInt) = some hash := by
  -- A number of 64 bits is within their bounds.
  have fits : Int64.minValue.toInt ≤ hash.toInt ∧ hash.toInt ≤ Int64.maxValue.toInt :=
    ⟨hash.minValue_le_toInt, hash.toInt_le⟩
  change (if _ then some (Int64.ofInt hash.toInt) else none) = some hash
  rw [if_pos fits, Int64.ofInt_toInt]

/-- The kind of a shape is read back. -/
@[simp]
theorem Shape.Kind.ofJson?_toJson (kind : Shape.Kind) : ofJson? kind.toJson = some kind := by
  -- Its word names it.
  rw [toJson, ofJson?, ofName_name]

/-- A mode of display is read back. -/
theorem DisplayMode.ofJson?_toJson (mode : DisplayMode) : ofJson? mode.toJson = some mode := by
  -- Its word names it.
  cases mode <;> rfl

/-- A lesson is read back. -/
@[simp]
theorem Lesson.ofJson?_toJson (l : Lesson) : ofJson? l.toJson = some l := by
  -- The model alone may be null; each other field is the one member of its name.
  have model : Json.nullable? Example.Id.ofJson? (.ofOption Example.Id.toJson l.model) =
      some l.model :=
    Json.nullable?_ofOption (fun id _ => id.ofJson?_toJson) nofun
  simp [ofJson?, toJson, Json.record?, Json.required_eq_sole?, Json.defaulted_eq_sole?,
    Json.optional_eq_sole?, model]

/-- An example is read back. -/
@[simp]
theorem Example.ofJson?_toJson (e : Example) : ofJson? e.toJson = some e := by
  -- Each field is the one member of its name.
  simp [ofJson?, toJson, Json.record?, Json.required_eq_sole?, Json.defaulted_eq_sole?]

/-- Measures are read back when all of them are finite. -/
theorem Model.Measures.ofJson?_toJson {m : Model.Measures} (finite : m.IsFinite) :
    ofJson? m.toJson = some m := by
  -- A number that is not finite would be written as null, which is no number.
  obtain ⟨bbox, area, volume⟩ := finite
  have corners : Json.listOf? Json.binary64? (.list (m.bbox.map .ofBinary64)) = some m.bbox :=
    Json.listOf?_map _ fun x inBox => Json.binary64?_ofBinary64 (bbox x inBox)
  simp [ofJson?, toJson, Json.record?, Json.defaulted_eq_sole?, corners,
    Json.binary64?_ofBinary64 area, Json.binary64?_ofBinary64 volume]

/-- A model is read back when its measures are finite. -/
theorem Model.ofJson?_toJson {m : Model} (finite : ∀ measures ∈ m.measures, measures.IsFinite) :
    ofJson? m.toJson = some m := by
  -- Missing measures are left out; those that are there are never written as null.
  have measures := Json.sole?_toList m.measures
    (fun measures given => Measures.ofJson?_toJson (finite measures given)) nofun
  simp [ofJson?, toJson, Json.record?, Json.required_eq_sole?, Json.optional_eq_sole?,
    measures]

/-- Counts are read back. -/
@[simp]
theorem Selection.Counts.ofJson?_toJson (c : Selection.Counts) : ofJson? c.toJson = some c := by
  -- Each count is the one member of its name and fits its type.
  simp [ofJson?, toJson, Json.record?, Json.defaulted_eq_sole?]

/-- A shape is read back. -/
@[simp]
theorem Shape.ofJson?_toJson (s : Shape) : ofJson? s.toJson = some s := by
  -- A missing hash is left out.
  have hash := Json.sole?_toList s.hash (fun hash _ => hash?_ofInt hash) nofun
  simp [ofJson?, toJson, Json.record?, Json.required_eq_sole?, Json.optional_eq_sole?, hash]

/-- A result is read back. -/
@[simp]
theorem Selection.Result.ofJson?_toJson (r : Selection.Result) : ofJson? r.toJson = some r := by
  -- Its shapes are read back one by one, and a missing preview is left out.
  have items := Json.listOf?_map r.items fun s _ => s.ofJson?_toJson
  have preview := Json.sole?_toList r.previewMeshUrl (fun url _ => Json.text?_text url)
    nofun
  simp [ofJson?, toJson, Json.record?, Json.defaulted_eq_sole?, Json.optional_eq_sole?,
    items, preview]

/-- A list of lessons is read back. -/
@[simp]
theorem LessonList.ofJson?_toJson (l : LessonList) : ofJson? l.toJson = some l := by
  -- Lesson by lesson.
  have lessons := Json.listOf?_map l.lessons fun l _ => l.ofJson?_toJson
  simp [ofJson?, toJson, Json.record?, Json.required_eq_sole?, lessons]

/-- A list of examples is read back. -/
@[simp]
theorem ExampleList.ofJson?_toJson (l : ExampleList) : ofJson? l.toJson = some l := by
  -- Example by example.
  have examples := Json.listOf?_map l.examples fun e _ => e.ofJson?_toJson
  simp [ofJson?, toJson, Json.record?, Json.required_eq_sole?, examples]

/-- What is to be compiled is read back. -/
@[simp]
theorem CompileRequest.ofJson?_toJson (r : CompileRequest) : ofJson? r.toJson = some r := by
  -- Either of the two members is left out when it is missing.
  have source := Json.sole?_toList r.source (fun source _ => Json.text?_text source) nofun
  have asset := Json.sole?_toList r.asset (fun id _ => id.ofJson?_toJson) nofun
  simp [ofJson?, toJson, Json.record?, Json.optional_eq_sole?, source, asset]

/-- Filters are read back when all of their bounds are finite. -/
theorem Selection.Filters.ofJson?_toJson {f : Selection.Filters} (finite : f.IsFinite) :
    ofJson? f.toJson = some f := by
  -- The four bounds are written and read alike.
  have bound : ∀ value : Option Binary64, (∀ x ∈ value, x.isFinite) →
      Json.sole? (some none) (Json.nullable? Json.binary64?) (value.map .ofBinary64).toList =
        some value := by
    intro value finite
    exact Json.sole?_toList _ (fun x given => Json.binary64?_ofBinary64 (finite x given))
      fun x given => Json.ofBinary64_ne_null (finite x given)
  obtain ⟨minArea, maxArea, minLength, maxLength⟩ := finite
  simp [ofJson?, toJson, Json.record?, Json.optional_eq_sole?, bound _ minArea,
    bound _ maxArea, bound _ minLength, bound _ maxLength]

/-- A request for a selection is read back when its bounds are finite. -/
theorem Selection.Request.ofJson?_toJson {r : Selection.Request}
    (finite : ∀ filters ∈ r.filters, filters.IsFinite) : ofJson? r.toJson = some r := by
  -- Missing filters are left out; those that are there are never written as null.
  have filters := Json.sole?_toList r.filters
    (fun filters given => Filters.ofJson?_toJson (finite filters given)) nofun
  simp [ofJson?, toJson, Json.record?, Json.required_eq_sole?, Json.optional_eq_sole?,
    filters]

/-- The health of the backend is read back. -/
@[simp]
theorem Health.ofJson?_toJson (h : Health) : ofJson? h.toJson = some h := by
  -- Its only field is the one member of its name.
  simp [ofJson?, toJson, Json.record?, Json.required_eq_sole?]

namespace Json

variable {α : Type} {name : String} {read : Json → Option α} {absent : Option α} {holds : α → Prop}

/-- All that is read of sound values has some property. -/
def Gives (read : Json → Option α) (holds : α → Prop) : Prop :=
  ∀ json a, json.IsSound → read json = some a → holds a

/-- Every number that is read of a sound value is finite. -/
theorem gives_binary64? : Gives binary64? fun x => x.isFinite := by
  -- This is what soundness says of numbers.
  intro json x sound found
  exact sound.isFinite_of_binary64? found

/-- Every item of a list that is read has what all items have. -/
theorem Gives.listOf? (each : Gives read holds) :
    Gives (listOf? read) fun as => ∀ a ∈ as, holds a := by
  -- Only a list is read as one.
  intro json as sound found
  cases sound with
  | @list items sound =>
    change items.mapM read = some as at found
    -- The items are read one after another, each of them sound.
    induction items generalizing as with
    | nil =>
      cases found
      exact nofun
    | cons item items ih =>
      simp only [List.mapM_cons, Option.bind_eq_bind, Option.bind_eq_some_iff] at found
      obtain ⟨a, first, rest, others, same⟩ := found
      cases same
      obtain ⟨itemSound, itemsSound⟩ := List.forall_mem_cons.mp sound
      exact List.forall_mem_cons.mpr ⟨each item a itemSound first, ih rest itemsSound others⟩
  | null | bool | number | text | object | unreadable => cases found

/-- What may be null has what all has that is read, unless it is nothing. -/
theorem Gives.nullable? (present : Gives read holds) :
    Gives (nullable? read) fun value => ∀ a ∈ value, holds a := by
  -- Null is read as nothing, of which there is nothing to show.
  intro json value sound found
  by_cases null : json = .null
  · subst null
    cases found
    exact nofun
  · rw [nullable?_of_ne null] at found
    obtain ⟨a, given, rfl⟩ := Option.map_eq_some_iff.mp found
    rintro _ ⟨⟩
    exact present json a sound given

/-- The members of a sound record are sound. -/
theorem isSound_of_record? {names : List String} {json : Json} {members : List (String × Json)}
    (sound : json.IsSound) (isRecord : json.record? names = some members) :
    ∀ member ∈ members, member.2.IsSound := by
  -- An object has its own members, and a list the items that its values are.
  cases sound with
  | object sound =>
    cases isRecord
    exact sound
  | @list items sound =>
    rw [record?] at isRecord
    split at isRecord
    · cases isRecord
      intro member inside
      exact sound _ (List.of_mem_zip inside).2
    · cases isRecord
  | null | bool | number | text | unreadable => cases isRecord

/-- A field has a property that its default has and all that is read of its member. -/
theorem Gives.of_sole? {members : List (String × Json)} {a : α} (given : Gives read holds)
    (missing : ∀ a ∈ absent, holds a) (sound : ∀ member ∈ members, member.2.IsSound)
    (found : sole? absent read (membersNamed name members) = some a) : holds a := by
  -- A member is as sound as the value under its name.
  have inside : ∀ value, value ∈ membersNamed name members → value.IsSound := by
    intro value inside
    exact sound _ (mem_membersNamed.mp inside)
  -- With more than one value under the name nothing would have been found.
  match membersNamed name members, found, inside with
  | [], found, _ => exact missing a found
  | [value], found, inside => exact given value a (inside value List.mem_cons_self) found

/-- A field that may be missing or null has a property that all has that is read of its member. -/
theorem Gives.of_optional {members : List (String × Json)} {value : Option α}
    (given : Gives read holds) (sound : ∀ member ∈ members, member.2.IsSound)
    (found : optional name read members = some value) : ∀ a ∈ value, holds a := by
  -- It is read of its one member, or is nothing by default.
  rw [optional_eq_sole?] at found
  refine given.nullable?.of_sole? ?_ sound found
  rintro _ ⟨⟩
  exact nofun

/-- Measures that are read of a sound value are finite. -/
theorem gives_measures : Gives Model.Measures.ofJson? Model.Measures.IsFinite := by
  -- Field by field, as each is read on its own.
  intro json m sound found
  simp only [Model.Measures.ofJson?, Option.bind_eq_bind, Option.bind_eq_some_iff,
    defaulted_eq_sole?] at found
  obtain ⟨members, isRecord, bbox, corners, area, surface, volume, inside, same⟩ := found
  cases same
  have soundMembers := isSound_of_record? sound isRecord
  -- Zero stands for an area or a volume that is missing.
  have zero : ∀ x ∈ some Binary64.zero, x.isFinite := by
    rintro x ⟨⟩
    decide
  refine ⟨?_, ?_, ?_⟩
  · refine gives_binary64?.listOf?.of_sole? ?_ soundMembers corners
    rintro _ ⟨⟩
    simp
  · exact gives_binary64?.of_sole? zero soundMembers surface
  · exact gives_binary64?.of_sole? zero soundMembers inside

/-- The measures of a model that is read of a sound value are finite. -/
theorem gives_model : Gives Model.ofJson? fun m => ∀ measures ∈ m.measures, measures.IsFinite := by
  -- They are read of a member, which is sound.
  intro json m sound found
  simp only [Model.ofJson?, Option.bind_eq_bind, Option.bind_eq_some_iff] at found
  obtain ⟨members, isRecord, _, _, _, _, measures, found, same⟩ := found
  cases same
  exact gives_measures.of_optional (isSound_of_record? sound isRecord) found

/-- Bounds that are read of a sound value are finite. -/
theorem gives_filters : Gives Selection.Filters.ofJson? Selection.Filters.IsFinite := by
  -- Each of them is read of a member, which is sound.
  intro json f sound found
  simp only [Selection.Filters.ofJson?, Option.bind_eq_bind, Option.bind_eq_some_iff] at found
  obtain ⟨members, isRecord, _, minArea, _, maxArea, _, minLength, _, maxLength, same⟩ := found
  cases same
  have soundMembers := isSound_of_record? sound isRecord
  exact ⟨gives_binary64?.of_optional soundMembers minArea,
    gives_binary64?.of_optional soundMembers maxArea,
    gives_binary64?.of_optional soundMembers minLength,
    gives_binary64?.of_optional soundMembers maxLength⟩

/-- The bounds of a request that is read of a sound value are finite. -/
theorem gives_request :
    Gives Selection.Request.ofJson? fun r => ∀ filters ∈ r.filters, filters.IsFinite := by
  -- They are read of a member, which is sound.
  intro json r sound found
  simp only [Selection.Request.ofJson?, Option.bind_eq_bind, Option.bind_eq_some_iff] at found
  obtain ⟨members, isRecord, _, _, _, _, filters, found, same⟩ := found
  cases same
  exact gives_filters.of_optional (isSound_of_record? sound isRecord) found

namespace Record

/-- How a record is written. -/
def toJson : (r : Record) → r.Value → Json
  | lesson => Lesson.toJson
  | .example => Example.toJson
  | measures => Model.Measures.toJson
  | model => Model.toJson
  | counts => Selection.Counts.toJson
  | shape => Shape.toJson
  | result => Selection.Result.toJson
  | lessons => LessonList.toJson
  | examples => ExampleList.toJson
  | compile => CompileRequest.toJson
  | filters => Selection.Filters.toJson
  | request => Selection.Request.toJson
  | health => Health.toJson

/-- All 64-bit numbers in a record are finite. -/
def IsFinite : (r : Record) → r.Value → Prop
  | measures => Model.Measures.IsFinite
  | model => fun m => ∀ measures ∈ m.measures, measures.IsFinite
  | filters => Selection.Filters.IsFinite
  | request => fun r => ∀ filters ∈ r.filters, filters.IsFinite
  | lesson | .example | counts | shape | result | lessons | examples | compile | health =>
    fun _ => True

/-- A record with finite numbers is read back as it was written. -/
theorem ofJson?_toJson (r : Record) {v : r.Value} (finite : r.IsFinite v) :
    r.ofJson? (r.toJson v) = some v := by
  -- Record by record; only some of them hold numbers that need not be finite.
  cases r with
  | lesson => exact Lesson.ofJson?_toJson v
  | «example» => exact Example.ofJson?_toJson v
  | measures => exact Model.Measures.ofJson?_toJson finite
  | model => exact Model.ofJson?_toJson finite
  | counts => exact Selection.Counts.ofJson?_toJson v
  | shape => exact Shape.ofJson?_toJson v
  | result => exact Selection.Result.ofJson?_toJson v
  | lessons => exact LessonList.ofJson?_toJson v
  | examples => exact ExampleList.ofJson?_toJson v
  | compile => exact CompileRequest.ofJson?_toJson v
  | filters => exact Selection.Filters.ofJson?_toJson finite
  | request => exact Selection.Request.ofJson?_toJson finite
  | health => exact Health.ofJson?_toJson v

/-- Records that are read of sound values have finite numbers. -/
theorem gives_isFinite (r : Record) : Gives r.ofJson? r.IsFinite := by
  -- By the record; only four of them have numbers of this kind.
  cases r with
  | measures => exact gives_measures
  | model => exact gives_model
  | filters => exact gives_filters
  | request => exact gives_request
  -- There are no 64-bit numbers in these.
  | lesson | «example» | counts | shape | result | lessons | examples | compile | health =>
    intro _ _ _ _
    trivial

end Record

/-- What passes between the client and the backend, or is kept by the client, as JSON. -/
inductive Carried where
  /-- A record. -/
  | record (r : Record)
  /-- What a shape is. -/
  | kind
  /-- What the viewport draws. -/
  | mode
deriving DecidableEq, Repr

namespace Carried

/-- The values of what is carried. -/
@[reducible]
def Value : Carried → Type
  | record r => r.Value
  | kind => Shape.Kind
  | mode => DisplayMode

/-- How it is written. -/
def toJson : (c : Carried) → c.Value → Json
  | record r => r.toJson
  | kind => Shape.Kind.toJson
  | mode => DisplayMode.toJson

/-- How it is read. -/
def ofJson? : (c : Carried) → Json → Option c.Value
  | record r => r.ofJson?
  | kind => Shape.Kind.ofJson?
  | mode => DisplayMode.ofJson?

/-- All 64-bit numbers in it are finite. -/
def IsFinite : (c : Carried) → c.Value → Prop
  | record r => r.IsFinite
  | kind | mode => fun _ => True

/-- All that is carried is read back, as long as its numbers are finite. -/
theorem ofJson?_toJson (c : Carried) {v : c.Value} (finite : c.IsFinite v) :
    c.ofJson? (c.toJson v) = some v := by
  -- Kinds and modes are words, with no numbers in them.
  cases c with
  | record r => exact r.ofJson?_toJson finite
  | kind => exact Shape.Kind.ofJson?_toJson v
  | mode => exact DisplayMode.ofJson?_toJson v

/-- All that is read of a sound value has finite numbers only. -/
theorem gives_isFinite (c : Carried) : Gives c.ofJson? c.IsFinite := by
  -- Kinds and modes have no numbers.
  cases c with
  | record r => exact r.gives_isFinite
  | kind | mode =>
    intro _ _ _ _
    trivial

end Carried

/-- All that is carried as JSON is read back as it was written, as long as its numbers are finite.
They are if it was read of a value that JSON can hold, as is each value that some bytes write; so
what was read and written once more is written the same ever after. -/
theorem read_of_written (c : Carried) :
    (∀ v, c.IsFinite v → c.ofJson? (c.toJson v) = some v) ∧
    (∀ json v, json.IsSound → c.ofJson? json = some v →
      c.IsFinite v ∧ ∃ again, c.ofJson? (c.toJson v) = some again ∧ c.toJson again = c.toJson v) ∧
    ∀ bytes json, ofBytes? bytes = some json → json.IsSound := by
  -- What is read of a sound value is finite, so it comes back when it is written, and the second
  -- writing is the first one.
  refine ⟨fun v finite => c.ofJson?_toJson finite, ?_, fun bytes json => isSound_of_ofBytes?⟩
  intro json v sound read
  have finite := c.gives_isFinite json v sound read
  exact ⟨finite, v, c.ofJson?_toJson finite, rfl⟩

/-- A model whose area was written as an integer has it written as a number from then on. -/
theorem read_of_written_model :
    let m : Model := { id := ⟨"m1"⟩, meshUrl := "m1.glb", measures := some { area := .ofInt 5 } }
    let json := Json.object [("meta", .object [("area", .ofInt 5)]), ("modelId", .text "m1"),
      ("meshUrl", .text "m1.glb")]
    Carried.ofJson? (.record .model) (m.toJson) = some m ∧
      json.IsSound ∧ Carried.ofJson? (.record .model) json = some m ∧
      ∃ again : Model, Carried.ofJson? (.record .model) m.toJson = some again ∧
        again.toJson = m.toJson := by
  -- The theorem is applied to both, once both are seen to be fit for it.
  intro m json
  have finite : Carried.IsFinite (.record .model) m := by
    rintro measures ⟨⟩
    -- No corners, an area and no volume.
    exact ⟨nofun, by decide +kernel, by decide +kernel⟩
  have sound : json.IsSound := by
    apply IsSound.object
    simp only [List.forall_mem_cons]
    refine ⟨.object ?_, .text _, .text _, nofun⟩
    simp only [List.forall_mem_cons]
    exact ⟨.number ⟨by decide, by decide⟩, nofun⟩
  have read : Carried.ofJson? (.record .model) json = some m := by rfl
  obtain ⟨back, once, -⟩ := read_of_written (.record .model)
  exact ⟨back m finite, sound, read, (once json m sound read).2⟩

end Json

end SelectorTutorial
