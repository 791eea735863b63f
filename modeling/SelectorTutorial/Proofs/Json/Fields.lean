import SelectorTutorial.Backend.Bodies
import SelectorTutorial.Proofs.Json.Member
import Mathlib.Data.List.Nodup

/-!
The records that pass between the client and the backend, field by field.  What a record is read as
depends on its known members alone, however they are ordered and whatever stands beside them.
-/

namespace SelectorTutorial

/-- The word for a kind names that kind. -/
theorem Shape.Kind.ofName_name (kind : Shape.Kind) : ofName kind.name = kind := by
  -- The words of the known kinds differ, and the word for other kinds names none of them.
  cases kind <;> rfl

/-- A word names some other kind just when it is the word for none of those that have names. -/
theorem Shape.Kind.ofName_eq_other_iff {word : String} :
    ofJson? (.text word) = some .other ↔ ∀ kind, kind ≠ .other → name kind ≠ word := by
  -- One way no named kind is read as some other; the other way each word is gone through.
  rw [ofJson?, Option.some.injEq]
  constructor
  · rintro isOther kind named rfl
    rw [ofName_name] at isOther
    exact named isOther
  · intro unnamed
    unfold ofName
    -- Each word that is looked for is the word for a kind with a name.
    split
    · exact absurd rfl (unnamed .face nofun)
    · exact absurd rfl (unnamed .edge nofun)
    · exact absurd rfl (unnamed .vertex nofun)
    · exact absurd rfl (unnamed .wire nofun)
    · exact absurd rfl (unnamed .shell nofun)
    · exact absurd rfl (unnamed .solid nofun)
    · exact absurd rfl (unnamed .compound nofun)
    · rfl

namespace Json

/-- The records that pass between the client and the backend. -/
inductive Record where
  | lesson
  | example
  | measures
  | model
  | counts
  | shape
  | result
  | lessons
  | examples
  | compile
  | filters
  | request
  | health
deriving DecidableEq, Repr

namespace Record

/-- The values of a record. -/
@[reducible]
def Value : Record → Type
  | lesson => Lesson
  | .example => Example
  | measures => Model.Measures
  | model => Model
  | counts => Selection.Counts
  | shape => Shape
  | result => Selection.Result
  | lessons => LessonList
  | examples => ExampleList
  | compile => CompileRequest
  | filters => Selection.Filters
  | request => Selection.Request
  | health => Health

/-- How a record is read. -/
def ofJson? : (r : Record) → Json → Option r.Value
  | lesson => Lesson.ofJson?
  | .example => Example.ofJson?
  | measures => Model.Measures.ofJson?
  | model => Model.ofJson?
  | counts => Selection.Counts.ofJson?
  | shape => Shape.ofJson?
  | result => Selection.Result.ofJson?
  | lessons => LessonList.ofJson?
  | examples => ExampleList.ofJson?
  | compile => CompileRequest.ofJson?
  | filters => Selection.Filters.ofJson?
  | request => Selection.Request.ofJson?
  | health => Health.ofJson?

end Record

/-- What a member can hold, as far as it has parts that are read each for itself. -/
inductive Format : Type 1 where
  /-- A value without such parts. -/
  | whole (Value : Type) (read : Json → Option Value)
  /-- Items of one format. -/
  | list (item : Format)
  /-- Null, or a value of some format. -/
  | nullable (value : Format)
  /-- The members of a record. -/
  | record (r : Record)

namespace Format

/-- The values of a format. -/
@[reducible]
def Value : Format → Type
  | whole Value _ => Value
  | list item => List item.Value
  | nullable value => Option value.Value
  | record r => r.Value

/-- How a format is read. -/
def read : (f : Format) → Json → Option f.Value
  | whole _ read => read
  | list item => listOf? item.read
  | nullable value => nullable? value.read
  | record r => r.ofJson?

/-- What is carried as a whole is read in its own way. -/
@[simp]
theorem read_whole {α : Type} (read : Json → Option α) : (whole α read).read = read := rfl

/-- A list is read item by item. -/
@[simp]
theorem read_list (item : Format) : item.list.read = listOf? item.read := rfl

/-- What may be null is read as nothing from null. -/
@[simp]
theorem read_nullable (value : Format) : value.nullable.read = nullable? value.read := rfl

/-- A record is read as its own type is. -/
@[simp]
theorem read_record (r : Record) : (record r).read = r.ofJson? := rfl

/-- Text. -/
@[reducible]
def text : Format := .whole String text?

/-- A 64-bit number. -/
@[reducible]
def number : Format := .whole Binary64 binary64?

/-- How many shapes there are of one kind. -/
@[reducible]
def count : Format := .whole UInt32 Selection.Counts.count?

end Format

/-- A field that the values of a type have. -/
structure Field (ρ : Type) where
  /-- The name of its member. -/
  name : String
  /-- What its member holds. -/
  format : Format
  /-- What it is when its member is missing; a required member has to be there. -/
  absent : Option format.Value
  /-- The field of a value. -/
  get : ρ → format.Value

namespace Field

variable {ρ : Type}

/-- A field whose member is required. -/
def required (name : String) (format : Format) (get : ρ → format.Value) : Field ρ where
  name := name
  format := format
  absent := none
  get := get

/-- A field that has a default when its member is missing. -/
def defaulted (name : String) (format : Format) (default : format.Value) (get : ρ → format.Value) :
    Field ρ where
  name := name
  format := format
  absent := some default
  get := get

/-- A field that is nothing when its member is missing or null. -/
def optional (name : String) (format : Format) (get : ρ → Option format.Value) : Field ρ where
  name := name
  format := .nullable format
  absent := some none
  get := get

/-- What some members have for a field. -/
def read? (f : Field ρ) (members : List (String × Json)) : Option f.format.Value :=
  sole? f.absent f.format.read (membersNamed f.name members)

section

variable (name : String) (format : Format) (members : List (String × Json)) (v : ρ)

/-- A required field is read of its one member, and nothing stands for that. -/
@[simp]
theorem read?_required (get : ρ → format.Value) :
    (required name format get).read? members =
      sole? none format.read (membersNamed name members) := rfl

/-- A field with a default is read of its one member, or is that default. -/
@[simp]
theorem read?_defaulted (default : format.Value) (get : ρ → format.Value) :
    (defaulted name format default get).read? members =
      sole? (some default) format.read (membersNamed name members) := rfl

/-- An optional field is read of its one member, which may be null, or is nothing. -/
@[simp]
theorem read?_optional (get : ρ → Option format.Value) :
    (optional name format get).read? members =
      sole? (some none) (nullable? format.read) (membersNamed name members) := rfl

/-- A required field has the name that it was given. -/
@[simp]
theorem name_required (get : ρ → format.Value) : (required name format get).name = name := rfl

/-- A field with a default has the name that it was given. -/
@[simp]
theorem name_defaulted (default : format.Value) (get : ρ → format.Value) :
    (defaulted name format default get).name = name := rfl

/-- An optional field has the name that it was given. -/
@[simp]
theorem name_optional (get : ρ → Option format.Value) : (optional name format get).name = name :=
  rfl

/-- A required field is got from a value as it was said. -/
@[simp]
theorem get_required (get : ρ → format.Value) : (required name format get).get v = get v := rfl

/-- A field with a default is got from a value as it was said. -/
@[simp]
theorem get_defaulted (default : format.Value) (get : ρ → format.Value) :
    (defaulted name format default get).get v = get v := rfl

/-- An optional field is got from a value as it was said. -/
@[simp]
theorem get_optional (get : ρ → Option format.Value) : (optional name format get).get v = get v :=
  rfl

end

end Field

namespace Record

/-- The fields of a record in the order of their declaration. -/
def fields : (r : Record) → List (Field r.Value)
  | lesson => [
    .required "id" (.whole Lesson.Id Lesson.Id.ofJson?) Lesson.id,
    .required "title" .text Lesson.title,
    .defaulted "goal" .text "" Lesson.goal,
    .defaulted "startingSelection" .text "" Lesson.startingSelection,
    .defaulted "solution" .text "" Lesson.solution,
    .optional "model" (.whole Example.Id Example.Id.ofJson?) Lesson.model,
    .defaulted "snippet" .text "" Lesson.snippet,
    .defaulted "notes" (.list .text) [] Lesson.notes,
    .defaulted "hints" (.list .text) [] Lesson.hints]
  | .example => [
    .required "id" (.whole Example.Id Example.Id.ofJson?) Example.id,
    .required "name" .text Example.name,
    .defaulted "tags" (.list .text) [] Example.tags]
  | measures => [
    .defaulted "bbox" (.list .number) [] Model.Measures.bbox,
    .defaulted "area" .number Binary64.zero Model.Measures.area,
    .defaulted "volume" .number Binary64.zero Model.Measures.volume]
  | model => [
    .required "modelId" (.whole Model.Id Model.Id.ofJson?) Model.id,
    .required "meshUrl" .text Model.meshUrl,
    .optional "meta" (.record measures) Model.measures]
  | counts => [
    .defaulted "faces" .count (0 : UInt32) Selection.Counts.faces,
    .defaulted "edges" .count (0 : UInt32) Selection.Counts.edges,
    .defaulted "vertices" .count (0 : UInt32) Selection.Counts.vertices]
  | shape => [
    .required "id" (.whole Shape.Id Shape.Id.ofJson?) Shape.id,
    .required "type" (.whole Shape.Kind Shape.Kind.ofJson?) Shape.kind,
    .optional "hash" (.whole Int64 Shape.hash?) Shape.hash]
  | result => [
    .defaulted "expression" .text "" Selection.Result.expression,
    .defaulted "counts" (.record counts) ({} : Selection.Counts) Selection.Result.counts,
    .defaulted "items" (.list (.record shape)) [] Selection.Result.items,
    .optional "previewMeshUrl" .text Selection.Result.previewMeshUrl]
  | lessons => [.required "lessons" (.list (.record lesson)) LessonList.lessons]
  | examples => [.required "examples" (.list (.record .example)) ExampleList.examples]
  | compile => [
    .optional "source" .text CompileRequest.source,
    .optional "asset" (.whole Example.Id Example.Id.ofJson?) CompileRequest.asset]
  | filters => [
    .optional "minArea" .number Selection.Filters.minArea,
    .optional "maxArea" .number Selection.Filters.maxArea,
    .optional "minLength" .number Selection.Filters.minLength,
    .optional "maxLength" .number Selection.Filters.maxLength]
  | request => [
    .required "modelId" (.whole Model.Id Model.Id.ofJson?) Selection.Request.model,
    .required "selection" .text Selection.Request.selection,
    .optional "filters" (.record filters) Selection.Request.filters]
  | health => [.required "status" .text Health.status]

/-- The names of the fields of a record. -/
def names (r : Record) : List String :=
  r.fields.map Field.name

/-- The members without which nothing is a record. -/
def requiredNames : Record → List String
  | lesson => ["id", "title"]
  | .example => ["id", "name"]
  | model => ["modelId", "meshUrl"]
  | shape => ["id", "type"]
  | request => ["modelId", "selection"]
  | health => ["status"]
  | lessons => ["lessons"]
  | examples => ["examples"]
  | measures => []
  | counts => []
  | result => []
  | compile => []
  | filters => []

/-- No two fields of a record have one name. -/
theorem names_nodup (r : Record) : r.names.Nodup := by
  -- The names of each record are looked through.
  cases r <;> decide

/-- A field is known by its name. -/
theorem eq_of_name_eq {r : Record} {f g : Field r.Value} (inRecord : f ∈ r.fields)
    (alsoInRecord : g ∈ r.fields) (same : f.name = g.name) : f = g :=
  -- No two fields of a record have the same name.
  List.inj_on_of_nodup_map r.names_nodup inRecord alsoInRecord same

/-- The members that are required are those of the fields that nothing else can stand for. -/
theorem absent_eq_none_iff {r : Record} {f : Field r.Value} (inRecord : f ∈ r.fields) :
    f.absent = none ↔ f.name ∈ r.requiredNames := by
  -- Field by field in each record: only a required one has nothing to stand for it.
  revert f
  cases r <;> simp [fields, requiredNames, Field.required, Field.optional, Field.defaulted]

/-- Null is a value of those fields only that are nothing when their members are missing. -/
theorem isSome_read_null_iff {r : Record} {f : Field r.Value} (inRecord : f ∈ r.fields) :
    (f.format.read .null).isSome ↔ ∃ value, f.format = .nullable value := by
  -- Field by field in each record: none of the plain formats reads null.
  revert f
  cases r <;>
    simp [fields, Field.required, Field.defaulted, Field.optional, Format.text, Format.number,
      Format.count, nullable?, listOf?, text?, binary64?, int?, record?, ofJson?,
      Lesson.Id.ofJson?, Example.Id.ofJson?, Model.Id.ofJson?, Shape.Id.ofJson?,
      Shape.Kind.ofJson?, Selection.Counts.count?, Selection.Counts.ofJson?]

/-- Some members have what a value has for each field of a record. -/
def IsReadFrom (r : Record) (members : List (String × Json)) (v : r.Value) : Prop :=
  ∀ f ∈ r.fields, f.read? members = some (f.get v)

/-- A record is read just as its fields are read of its members, each for itself. -/
theorem ofJson?_eq_some_iff (r : Record) {json : Json} {v : r.Value} :
    r.ofJson? json = some v ↔
      ∃ members, json.record? r.names = some members ∧ r.IsReadFrom members v := by
  -- The reader of each record takes its fields one after another.
  cases r <;> obtain ⟨⟩ := v <;>
    simp [ofJson?, Lesson.ofJson?, Example.ofJson?, Model.Measures.ofJson?, Model.ofJson?,
      Selection.Counts.ofJson?, Shape.ofJson?, Selection.Result.ofJson?, LessonList.ofJson?,
      ExampleList.ofJson?, CompileRequest.ofJson?, Selection.Filters.ofJson?,
      Selection.Request.ofJson?, Health.ofJson?, Lesson.fields, Example.fields,
      Model.Measures.fields, Model.fields, Selection.Counts.fields, Shape.fields,
      Selection.Result.fields, Selection.Filters.fields, Selection.Request.fields,
      Option.bind_eq_some_iff, required_eq_sole?, defaulted_eq_sole?, optional_eq_sole?,
      IsReadFrom, fields, names] <;>
    exact Iff.rfl

/-- A record is read from an object just when each field is read from the members of that. -/
theorem ofJson?_object_eq_some_iff (r : Record) {members : List (String × Json)} {v : r.Value} :
    r.ofJson? (.object members) = some v ↔ r.IsReadFrom members v := by
  -- An object stands for its own members, whatever the names of the fields.
  simp [ofJson?_eq_some_iff, record?]

/-- A record can be read when each of its fields can be. -/
theorem isSome_ofJson?_iff (r : Record) {members : List (String × Json)} :
    (r.ofJson? (.object members)).isSome ↔ ∀ f ∈ r.fields, (f.read? members).isSome := by
  -- Values of all fields make a value of the record, whatever they are.
  cases r <;>
    simp [ofJson?, Lesson.ofJson?, Example.ofJson?, Model.Measures.ofJson?, Model.ofJson?,
      Selection.Counts.ofJson?, Shape.ofJson?, Selection.Result.ofJson?, LessonList.ofJson?,
      ExampleList.ofJson?, CompileRequest.ofJson?, Selection.Filters.ofJson?,
      Selection.Request.ofJson?, Health.ofJson?, Option.isSome_iff_exists,
      Option.bind_eq_some_iff, required_eq_sole?, defaulted_eq_sole?, optional_eq_sole?, record?,
      fields] <;>
    exact Iff.rfl

/-- Members that have the same for each field of a record are read alike. -/
theorem ofJson?_congr {r : Record} {json other : Json} {members others : List (String × Json)}
    (here : json.record? r.names = some members) (there : other.record? r.names = some others)
    (same : ∀ f ∈ r.fields, f.read? members = f.read? others) :
    r.ofJson? json = r.ofJson? other := by
  -- What is read of a record is told by what is read of its fields.
  apply Option.ext
  intro v
  have alike : r.IsReadFrom members v ↔ r.IsReadFrom others v := by
    constructor
    · intro readFrom f inRecord
      rw [← same f inRecord, readFrom f inRecord]
    · intro readFrom f inRecord
      rw [same f inRecord, readFrom f inRecord]
  simp only [ofJson?_eq_some_iff, here, there, Option.some.injEq, exists_eq_left', alike]

/-- A member has another value that is read alike. -/
theorem read?_middle {r : Record} {f g : Field r.Value} (inRecord : f ∈ r.fields)
    (alsoInRecord : g ∈ r.fields) {value other : Json}
    (same : f.format.read value = f.format.read other) (before after : List (String × Json)) :
    g.read? (before ++ (f.name, value) :: after) =
      g.read? (before ++ (f.name, other) :: after) := by
  -- Either the field is the one that is changed, or it does not see the change.
  by_cases this : f.name = g.name
  · obtain rfl := eq_of_name_eq inRecord alsoInRecord this
    simp only [Field.read?, membersNamed_append, membersNamed_cons_self]
    exact sole?_middle same _ _
  · -- No other field looks at this member.
    simp only [Field.read?, membersNamed_append, membersNamed_cons_of_ne this]

end Record

/--
Two values differ only in what no reader of a format looks at: the order of the members of a record,
members under names that the record does not know, and the like in the parts that make them up.
-/
inductive Rearranged : Format → Json → Json → Prop
  | refl (format : Format) (json : Json) : Rearranged format json json
  | symm {format : Format} {json other : Json} (rearranged : Rearranged format json other) :
      Rearranged format other json
  | trans {format : Format} {json other third : Json} (first : Rearranged format json other)
      (second : Rearranged format other third) : Rearranged format json third
  /-- The members of a record are put in another order. -/
  | order {r : Record} {members others : List (String × Json)} (order : members.Perm others) :
      Rearranged (.record r) (.object members) (.object others)
  /-- A member is added under a name that a record does not know. -/
  | stranger {r : Record} {name : String} (unknown : name ∉ r.names) (value : Json)
      (members : List (String × Json)) :
      Rearranged (.record r) (.object members) (.object ((name, value) :: members))
  /-- The value of a known member is rearranged. -/
  | member {r : Record} {f : Field r.Value} (inRecord : f ∈ r.fields) {value other : Json}
      (rearranged : Rearranged f.format value other) (before after : List (String × Json)) :
      Rearranged (.record r) (.object (before ++ (f.name, value) :: after))
        (.object (before ++ (f.name, other) :: after))
  /-- The value of a field is rearranged in a record that is written as the list of its values. -/
  | position {r : Record} {f : Field r.Value} {before : List Json}
      (inRecord : r.fields[before.length]? = some f) {value other : Json}
      (rearranged : Rearranged f.format value other) (after : List Json) :
      Rearranged (.record r) (.list (before ++ value :: after)) (.list (before ++ other :: after))
  /-- An item of a list is rearranged. -/
  | item {format : Format} {value other : Json} (rearranged : Rearranged format value other)
      (before after : List Json) :
      Rearranged (.list format) (.list (before ++ value :: after))
        (.list (before ++ other :: after))
  /-- A value that might be null is rearranged. -/
  | present {format : Format} {value other : Json} (rearranged : Rearranged format value other) :
      Rearranged (.nullable format) value other

/-- The names of the values in a list, where one of them is singled out. -/
theorem zip_middle {names : List String} {name : String} {before : List Json}
    (named : names[before.length]? = some name) (value : Json) (after : List Json) :
    names.zip (before ++ value :: after) =
      (names.take before.length).zip before ++
        (name, value) :: (names.drop (before.length + 1)).zip after := by
  -- Both lists lose their heads until the one that is singled out is the first.
  induction before generalizing names with
  | nil =>
    cases names with
    | nil => cases named
    | cons first names =>
      obtain rfl : first = name := Option.some.inj named
      rfl
  | cons item before ih =>
    cases names with
    | nil => cases named
    | cons first names =>
      simp only [List.cons_append, List.zip_cons_cons, List.length_cons, List.take_succ_cons,
        List.drop_succ_cons, ih named]

namespace Rearranged

/-- Null is like nothing but itself. -/
theorem eq_null_iff {format : Format} {json other : Json}
    (rearranged : Rearranged format json other) : json = .null ↔ other = .null := by
  -- Every way to rearrange a value keeps its kind, so null is left to itself.
  induction rearranged with
  | refl => exact Iff.rfl
  | symm _ ih => exact ih.symm
  | trans _ _ first second => exact first.trans second
  | present _ ih => exact ih
  | order | stranger | member | position | item => simp

/-- What is rearranged is read alike. -/
theorem read_eq {format : Format} {json other : Json} (rearranged : Rearranged format json other) :
    format.read json = format.read other := by
  -- By induction on how it is rearranged.
  induction rearranged with
  | refl => rfl
  | symm _ ih => exact ih.symm
  | trans _ _ first second => exact first.trans second
  | order order =>
    apply Record.ofJson?_congr rfl rfl
    intro f _
    -- The values under a name change places only.
    exact sole?_perm (membersNamed_perm order)
  | @stranger r name unknown value members =>
    apply Record.ofJson?_congr rfl rfl
    intro f inRecord
    -- No field has the name of the member that is added.
    have other : name ≠ f.name := by
      rintro rfl
      exact unknown (List.mem_map_of_mem inRecord)
    rw [Field.read?, Field.read?, membersNamed_cons_of_ne other]
  | member inRecord _ before after ih =>
    apply Record.ofJson?_congr rfl rfl
    intro g alsoInRecord
    exact Record.read?_middle inRecord alsoInRecord ih before after
  | @position r f before inRecord value other _ after ih =>
    have named : r.names[before.length]? = some f.name := by
      rw [Record.names, List.getElem?_map, inRecord, Option.map_some]
    have length : (before ++ value :: after).length = (before ++ other :: after).length := by
      simp only [List.length_append, List.length_cons]
    by_cases fits : (before ++ value :: after).length ≤ r.names.length
    · -- The values stand for the members of which they are the values, in the order of the fields.
      apply Record.ofJson?_congr (record?_list_of_le fits) (record?_list_of_le (length ▸ fits))
      intro g alsoInRecord
      rw [zip_middle named, zip_middle named]
      exact Record.read?_middle (List.mem_of_getElem? inRecord) alsoInRecord ih _ _
    · have refused : ∀ items : List Json, ¬ items.length ≤ r.names.length →
          r.ofJson? (.list items) = none := by
        intro items long
        apply Option.eq_none_iff_forall_ne_some.mpr
        intro v read
        obtain ⟨members, isRecord, -⟩ := r.ofJson?_eq_some_iff.mp read
        rw [record?_list_of_not_le long] at isRecord
        cases isRecord
      exact (refused _ fits).trans (refused _ (length ▸ fits)).symm
  | item _ before after ih =>
    -- A list is read item by item.
    simp only [Format.read, listOf?, List.mapM_append, List.mapM_cons, ih]
  | @present format value other rearranged ih =>
    by_cases null : value = .null
    · rw [null, rearranged.eq_null_iff.mp null]
    · have present : other ≠ .null := mt rearranged.eq_null_iff.mpr null
      simp only [Format.read, nullable?_of_ne null, nullable?_of_ne present, ih]

end Rearranged

/-- A record is read from an object just when no known member is there twice, each required member
is there, and each known member that is there holds what its field can be; null is that only for the
fields that may be nothing.  Each field then is what its member holds, or its default when its
member is missing.  So nothing depends on the order of the members or on members under other names,
at any depth, and a shape of a kind that is not known is of some other kind. -/
theorem read_of_known_members (r : Record) (members : List (String × Json)) :
    ((r.ofJson? (.object members)).isSome ↔
      ∀ f ∈ r.fields, (members.map Prod.fst).count f.name ≤ 1 ∧
        (f.name ∈ r.requiredNames → f.name ∈ members.map Prod.fst) ∧
        ∀ value, (f.name, value) ∈ members → (f.format.read value).isSome) ∧
    (∀ f ∈ r.fields, (f.format.read .null).isSome ↔ ∃ value, f.format = .nullable value) ∧
    (∀ v, r.ofJson? (.object members) = some v ↔
      ∀ f ∈ r.fields, (members.map Prod.fst).count f.name ≤ 1 ∧
        (∀ value, (f.name, value) ∈ members → f.format.read value = some (f.get v)) ∧
        (f.name ∉ members.map Prod.fst → f.absent = some (f.get v))) ∧
    (∀ json other, Rearranged (.record r) json other → r.ofJson? json = r.ofJson? other) ∧
    ∀ word, Shape.Kind.ofJson? (.text word) = some .other ↔
      ∀ kind, kind ≠ .other → Shape.Kind.name kind ≠ word := by
  -- The first and the third part say field by field what is read of the members under one name; the
  -- fourth is an induction over the ways to rearrange.
  refine ⟨?accepted, fun f => Record.isSome_read_null_iff, ?value, ?rearranged, ?kinds⟩
  case accepted =>
    rw [Record.isSome_ofJson?_iff]
    apply forall₂_congr
    intro f inRecord
    rw [Field.read?, isSome_sole?_membersNamed_iff, length_membersNamed,
      Record.absent_eq_none_iff inRecord]
  case value =>
    intro v
    rw [Record.ofJson?_object_eq_some_iff]
    apply forall₂_congr
    intro f _
    rw [Field.read?, sole?_membersNamed_eq_some_iff, length_membersNamed]
  case rearranged =>
    intro json other rearranged
    exact rearranged.read_eq
  case kinds =>
    intro word
    exact Shape.Kind.ofName_eq_other_iff

/-- A model is read as it was when its members change places and its measures come with a unit that
nobody asks for. -/
theorem read_of_rearranged_model :
    let name := ("modelId", Json.text "m1")
    let mesh := ("meshUrl", Json.text "m1.glb")
    let area := ("area", Json.ofInt 5)
    let members := [name, mesh, ("meta", .object [area])]
    let json := Json.object members
    let other := Json.object [mesh, name, ("meta", .object [("unit", .text "mm"), area])]
    Rearranged (.record .model) json other ∧
      Record.ofJson? .model json =
        some { id := ⟨"m1"⟩, meshUrl := "m1.glb", measures := some { area := .ofInt 5 } } ∧
      Record.ofJson? .model other = Record.ofJson? .model json := by
  -- The measures are rearranged within the model, and then its members change places.
  intro name mesh area members json other
  have unknown : "unit" ∉ Record.names .measures := by decide
  have measures : Rearranged (.nullable (.record .measures)) (.object [area])
      (.object [("unit", .text "mm"), area]) :=
    .present (.stranger unknown _ _)
  have inModel : Field.optional "meta" (.record .measures) Model.measures ∈ Record.fields .model :=
    List.mem_of_getElem? (i := 2) rfl
  have rearranged : Rearranged (.record .model) json other :=
    .trans (.member inModel measures [name, mesh] []) (.order (.swap mesh name _))
  obtain ⟨-, -, -, alike, -⟩ := read_of_known_members .model members
  exact ⟨rearranged, rfl, (alike json other rearranged).symm⟩

end Json

end SelectorTutorial
