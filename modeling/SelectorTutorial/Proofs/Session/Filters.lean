import SelectorTutorial.Backend.Api
import SelectorTutorial.Proofs.Session.Playground
import SelectorTutorial.Proofs.Text.Blank

/-! The bounds of the playground on their way from what was typed to what is sent: when a selector
is sent at all, which bounds go with it, and what the user is told where it is not. -/

namespace SelectorTutorial

namespace FilterTexts

/-- A bound of the form. -/
structure Field where
  /-- The name of the bound for the user. -/
  label : String
  /-- The name of the bound in a request. -/
  member : String
  /-- What was typed. -/
  text : String

/-- The bounds of the form, in the order in which they are read. -/
def fields (texts : FilterTexts) : List Field :=
  [⟨"min area", "minArea", texts.minArea⟩, ⟨"max area", "maxArea", texts.maxArea⟩,
    ⟨"min length", "minLength", texts.minLength⟩, ⟨"max length", "maxLength", texts.maxLength⟩]

/-- Something was typed that is no finite number. -/
def Field.IsRefused (field : Field) : Prop :=
  ¬ Text.IsBlank field.text ∧ Decimal.finite? (Text.trim field.text) = none

instance (field : Field) : Decidable field.IsRefused :=
  inferInstanceAs (Decidable (_ ∧ _))

/-- What is told of a bound that is no finite number. -/
def Field.fault (field : Field) : FilterFault :=
  ⟨field.label, Text.trim field.text⟩

/-- A bound is refused, and none of those before it is. -/
def FirstRefused (fields : List Field) (field : Field) : Prop :=
  ∃ before after, fields = before ++ field :: after ∧ (∀ other ∈ before, ¬ other.IsRefused) ∧
    field.IsRefused

/-- Bounds with their members in a request: those that are not blank have one each, which is the
finite number that was typed. -/
inductive Members : List Field → List (String × Json) → Prop
  | nil : Members [] []
  | blank {field : Field} {fields : List Field} {members : List (String × Json)}
      (blank : Text.IsBlank field.text) (rest : Members fields members) :
      Members (field :: fields) members
  | bound {field : Field} {fields : List Field} {members : List (String × Json)} {x : Binary64}
      (typed : ¬ Text.IsBlank field.text)
      (reads : Decimal.finite? (Text.trim field.text) = some x) (finite : x.isFinite)
      (rest : Members fields members) :
      Members (field :: fields) ((field.member, .number (.real x)) :: members)

variable {field : Field} {fields : List Field} {members : List (String × Json)}

/-! ### One bound -/

/-- A bound that is left blank is none. -/
theorem bound?_of_blank (blank : Text.IsBlank field.text) :
    bound? field.label field.text = .ok none := by
  -- Nothing is left of it when it is trimmed.
  rw [bound?, if_pos (Text.trim_eq_empty_iff.mpr blank)]

/-- A bound that was typed is the number that its text is read as. -/
theorem bound?_of_finite {x : Binary64} (typed : ¬ Text.IsBlank field.text)
    (reads : Decimal.finite? (Text.trim field.text) = some x) :
    bound? field.label field.text = .ok (some x) := by
  -- Something is left of it when it is trimmed, and that is a number.
  rw [bound?, if_neg (mt Text.trim_eq_empty_iff.mp typed)]
  simp only [reads]

/-- A bound that is refused is told with its text, without the blanks around it. -/
theorem bound?_of_refused (refused : field.IsRefused) :
    bound? field.label field.text = .error field.fault := by
  -- Something is left of it when it is trimmed, and that is no number.
  rw [bound?, if_neg (mt Text.trim_eq_empty_iff.mp refused.1)]
  simp only [refused.2]
  rfl

example : Field.IsRefused ⟨"max area", "maxArea", " 1e999 "⟩ := by decide +kernel

/-- A number that is read of a text is finite. -/
theorem isFinite_of_finite? {text : String} {x : Binary64} (reads : Decimal.finite? text = some x) :
    x.isFinite := by
  -- Numbers that are not finite are filtered out.
  rw [Decimal.finite?, Option.filter_eq_some_iff] at reads
  exact reads.2

/-! ### All bounds -/

/-- The members that are read of bounds, one bound after the other. -/
def readMembers : List Field → Except FilterFault (List (String × Json))
  | [] => .ok []
  | field :: fields => do
    let bound ← bound? field.label field.text
    let members ← readMembers fields
    return Json.memberIfSome field.member .ofBinary64 bound ++ members

/-- A bound that is read comes before the members of the others. -/
theorem readMembers_cons {bound : Option Binary64}
    (read : bound? field.label field.text = .ok bound) :
    readMembers (field :: fields) =
      (readMembers fields).map (Json.memberIfSome field.member .ofBinary64 bound ++ ·) := by
  -- The others are read after it, and may still be refused.
  rw [readMembers, read]
  cases readMembers fields <;> rfl

/-- After a bound that is refused, no other is read. -/
theorem readMembers_cons_of_refused (refused : field.IsRefused) :
    readMembers (field :: fields) = .error field.fault := by
  -- The fault ends the reading.
  rw [readMembers, bound?_of_refused refused]
  rfl

/-- A bound that is not refused leaves it to the others which one is refused first. -/
theorem FirstRefused.cons {other : Field} (fine : ¬ other.IsRefused)
    (first : FirstRefused fields field) : FirstRefused (other :: fields) field := by
  -- It is one more of those before the refused one.
  obtain ⟨before, after, split, unrefused, refused⟩ := first
  refine ⟨other :: before, after, by rw [split, List.cons_append], ?_, refused⟩
  intro earlier inside
  obtain same | inside := List.mem_cons.mp inside
  · rwa [same]
  · exact unrefused earlier inside

/-- One bound after the other is read, up to the first one that is refused. -/
theorem readMembers_cases (fields : List Field) :
    (∃ members, readMembers fields = .ok members ∧ Members fields members) ∨
      ∃ field, readMembers fields = .error field.fault ∧ FirstRefused fields field := by
  -- The induction is on the bounds: one is left blank, or it is a number, or it is refused.
  induction fields with
  | nil => exact .inl ⟨[], rfl, .nil⟩
  | cons first fields ih =>
    by_cases refused : first.IsRefused
    · exact .inr ⟨first, readMembers_cons_of_refused refused, [], fields, rfl, nofun, refused⟩
    by_cases blank : Text.IsBlank first.text
    · rw [readMembers_cons (bound?_of_blank blank)]
      obtain ⟨members, read, others⟩ | ⟨field, read, found⟩ := ih
      · exact .inl ⟨members, by rw [read]; rfl, .blank blank others⟩
      · exact .inr ⟨field, by rw [read]; rfl, found.cons refused⟩
    · obtain ⟨x, reads⟩ := Option.ne_none_iff_exists'.mp fun none => refused ⟨blank, none⟩
      have finite := isFinite_of_finite? reads
      have written : Json.ofBinary64 x = .number (.real x) := if_pos finite
      rw [readMembers_cons (bound?_of_finite blank reads), Json.memberIfSome, written]
      obtain ⟨members, read, others⟩ | ⟨field, read, found⟩ := ih
      · exact .inl ⟨_, by rw [read]; rfl, .bound blank reads finite others⟩
      · exact .inr ⟨field, by rw [read]; rfl, found.cons refused⟩

/-- No bound is refused where all of them have been read. -/
theorem Members.not_isRefused (read : Members fields members) :
    ∀ field ∈ fields, ¬ field.IsRefused := by
  -- The induction is on how the bounds were read.
  induction read with
  | nil => nofun
  | blank blank _ ih =>
    intro field inside refused
    obtain rfl | inside := List.mem_cons.mp inside
    · exact refused.1 blank
    · exact ih field inside refused
  | bound _ reads _ _ ih =>
    intro field inside refused
    obtain rfl | inside := List.mem_cons.mp inside
    · exact nomatch reads.symm.trans refused.2
    · exact ih field inside refused

/-- There is no member just where nothing was typed. -/
theorem Members.eq_nil_iff (read : Members fields members) :
    members = [] ↔ ∀ field ∈ fields, Text.IsBlank field.text := by
  -- Bound by bound: a blank one adds nothing, and one that was typed adds a member.
  induction read with
  | nil => simp
  | blank blank _ ih => rw [ih, List.forall_mem_cons, and_iff_right blank]
  | bound typed _ _ _ _ => simp [typed]

end FilterTexts

namespace Selection.Filters

/-- The bounds that there are, as members of an object. -/
def members (f : Filters) : List (String × Json) :=
  Json.memberIfSome "minArea" .ofBinary64 f.minArea ++
    Json.memberIfSome "maxArea" .ofBinary64 f.maxArea ++
    Json.memberIfSome "minLength" .ofBinary64 f.minLength ++
    Json.memberIfSome "maxLength" .ofBinary64 f.maxLength

/-- Filters without a bound have no members. -/
theorem isEmpty_iff_members {f : Filters} : f.isEmpty = true ↔ f.members = [] := by
  -- Each of the four bounds is there or not.
  obtain ⟨minArea, maxArea, minLength, maxLength⟩ := f
  cases minArea <;> cases maxArea <;> cases minLength <;> cases maxLength <;>
    simp [isEmpty, members, Json.memberIfSome]

end Selection.Filters

namespace FilterTexts

/-- The filters that are read of the form have the members that are read of its bounds. -/
theorem readMembers_fields (texts : FilterTexts) :
    readMembers texts.fields =
      texts.filters?.map fun filters => (filters.map (·.members)).getD [] := by
  simp only [filters?, fields, readMembers]
  -- The four bounds are read in the same order by both, and the first fault ends both.
  cases bound? "min area" texts.minArea with
  | error fault => rfl
  | ok minArea =>
    cases bound? "max area" texts.maxArea with
    | error fault => rfl
    | ok maxArea =>
      cases bound? "min length" texts.minLength with
      | error fault => rfl
      | ok minLength =>
        cases bound? "max length" texts.maxLength with
        | error fault => rfl
        | ok maxLength =>
          let filters : Selection.Filters := { minArea, maxArea, minLength, maxLength }
          have assembled : filters.members =
              ((if filters.isEmpty then none else some filters).map (·.members)).getD [] := by
            -- Filters without a bound are dropped, and have no members either.
            by_cases empty : filters.isEmpty = true
            · rw [if_pos empty]
              exact Selection.Filters.isEmpty_iff_members.mp empty
            · rw [if_neg empty]
              rfl
          have together : filters.members = Json.memberIfSome "minArea" .ofBinary64 minArea ++
              (Json.memberIfSome "maxArea" .ofBinary64 maxArea ++
                (Json.memberIfSome "minLength" .ofBinary64 minLength ++
                  (Json.memberIfSome "maxLength" .ofBinary64 maxLength ++ []))) := by
            simp only [Selection.Filters.members, filters, List.append_assoc, List.append_nil]
          exact congrArg Except.ok (together.symm.trans assembled)

end FilterTexts

namespace Selection.Request

/-- What is sent of a request with bounds: they are under a name of their own, or left out where
there is none. -/
inductive Sends (model : Model.Id) (selection : String) (fields : List FilterTexts.Field) :
    Json → Prop
  | unbounded (blank : ∀ field ∈ fields, Text.IsBlank field.text) :
      Sends model selection fields
        (.object [("modelId", model.toJson), ("selection", .text selection)])
  | bounded {members : List (String × Json)} (typed : ∃ field ∈ fields, ¬ Text.IsBlank field.text)
      (bounds : FilterTexts.Members fields members) (nonempty : members ≠ []) :
      Sends model selection fields
        (.object [("modelId", model.toJson), ("selection", .text selection),
          ("filters", .object members)])

/-- What is sent of a request has the members of its filters, if there are any. -/
theorem sends_of {model : Model.Id} {selection : String} {fields : List FilterTexts.Field}
    {filters : Option Filters}
    (read : FilterTexts.Members fields ((filters.map (·.members)).getD [])) :
    Sends model selection fields (Request.of model selection filters).toJson := by
  -- By whether there are filters, and whether these have a bound.
  cases filters with
  | none => exact .unbounded (read.eq_nil_iff.mp rfl)
  | some filters =>
    change FilterTexts.Members fields filters.members at read
    by_cases empty : filters.isEmpty = true
    · -- Filters without a bound are left out of the request.
      have dropped : Request.of model selection (some filters) = { model, selection } := by
        rw [Request.of, Option.filter_some, empty]
        rfl
      rw [dropped]
      exact .unbounded (read.eq_nil_iff.mp (Filters.isEmpty_iff_members.mp empty))
    · have kept : Request.of model selection (some filters) =
          { model, selection, filters := some filters } := by
        rw [Request.of, Option.filter_some, Bool.eq_false_iff.mpr empty]
        rfl
      have nonempty : filters.members ≠ [] := mt Filters.isEmpty_iff_members.mpr empty
      rw [kept]
      refine .bounded ?_ read nonempty
      simpa using mt read.eq_nil_iff.mpr nonempty

end Selection.Request

namespace Playground

/-- A selector is sent just when each of the bounds is blank or a finite number, and then the bounds
that were typed are sent with it.  Otherwise nothing is sent, and the page tells which bound is the
first that is no finite number. -/
theorem sent_with_bounds {page : Playground} {model : Model} (shared : Snapshot)
    (has : page.model = some model) (typed : ¬ Text.IsBlank page.form.selection) :
    ((∃ on, (page.start shared .run).progress = .waiting on) ↔
      ∀ field ∈ page.form.filters.fields, ¬ field.IsRefused) ∧
    (∀ on, (page.start shared .run).progress = .waiting on →
      ∃ request json, on.call = .select request ∧ Api.body on.call = .json json ∧
        Selection.Request.Sends model.id (Text.trim page.form.selection) page.form.filters.fields
          json) ∧
    ((¬ ∃ on, (page.start shared .run).progress = .waiting on) →
      ∃ field message, FilterTexts.FirstRefused page.form.filters.fields field ∧
        message = field.label ++ " must be a number, got " ++
          Text.quoted (Text.trim field.text) ∧
        page.start shared .run =
          ⟨{ page with selectionStatus := page.selectionStatus.fail message }, shared,
            .finished (.done (.failed message))⟩) := by
  -- To run a selector is to read its bounds first, and that comes out in one of two ways.
  have read := FilterTexts.readMembers_cases page.form.filters.fields
  rw [FilterTexts.readMembers_fields] at read
  have begins := start_begins page shared .run
  generalize page.start shared .run = step at begins
  -- There is a model and a selector, so what was typed as bounds decides what is done.
  cases begins with
  | skipped lacking =>
    obtain ⟨⟨⟩, _⟩ | ⟨_, missing | blank⟩ := lacking
    · exact nomatch has.symm.trans missing
    · exact absurd (Text.trim_eq_empty_iff.mp blank) typed
  | unreadable _ _ faulty =>
    obtain ⟨members, impossible, _⟩ | ⟨field, same, first⟩ := read
    · rw [faulty] at impossible
      cases impossible
    rw [faulty] at same
    obtain rfl := Except.error.inj same
    refine ⟨⟨nofun, ?_⟩, nofun, fun _ => ⟨field, _, first, rfl, rfl⟩⟩
    intro unrefused
    obtain ⟨before, after, split, _, refused⟩ := first
    exact absurd refused (unrefused field (by rw [split]; simp))
  | runs other _ filters =>
    obtain rfl := Option.some.inj (has.symm.trans other)
    obtain ⟨members, found, read⟩ | ⟨field, impossible, _⟩ := read
    · rw [filters] at found
      obtain rfl := Except.ok.inj found
      refine ⟨⟨fun _ => read.not_isRefused, fun _ => ⟨_, rfl⟩⟩, ?_, fun waits => ?_⟩
      · rintro _ ⟨⟩
        exact ⟨_, _, rfl, rfl, Selection.Request.sends_of read⟩
      · exact absurd ⟨_, rfl⟩ waits
    · rw [filters] at impossible
      cases impossible

/-- A smallest area of zero is sent like any other, and nothing is sent of what was left blank. -/
theorem sent_with_zero_area :
    let page : Playground := {
      form := { filters := { minArea := " 0 ", maxLength := " " } }
      model := some { id := ⟨"m1"⟩, meshUrl := "m1.glb" } }
    ∃ on, (page.start {} .run).progress = .waiting on ∧
      Api.body on.call = .json (.object [("modelId", .text "m1"),
        ("selection", .text ".faces(\"Z\")"),
        ("filters", .object [("minArea", .number (.real .zero))])]) := by
  -- The theorem tells what is sent, and the bounds that were typed leave one way for that.
  intro page
  have sent := @sent_with_bounds page _ {} rfl (by decide)
  obtain ⟨on, waits⟩ := sent.1.mpr (by decide +kernel)
  obtain ⟨_, json, _, body, sends⟩ := sent.2.1 on waits
  refine ⟨on, waits, body.trans (congrArg RequestBody.json ?_)⟩
  have zero : Decimal.finite? (Text.trim " 0 ") = some .zero := by decide +kernel
  have selection : Text.trim page.form.selection = ".faces(\"Z\")" := by decide
  rw [selection] at sends
  -- The first bound was typed and the others were not, so there is one member.
  cases sends with
  | unbounded blank =>
    exact absurd (blank _ List.mem_cons_self) (by decide)
  | bounded _ bounds _ =>
    cases bounds with
    | blank blank _ => exact absurd blank (by decide)
    | bound _ reads _ rest =>
      obtain rfl := Option.some.inj (zero.symm.trans reads)
      rw [rest.eq_nil_iff.mpr (by decide)]
      rfl

end Playground

end SelectorTutorial
