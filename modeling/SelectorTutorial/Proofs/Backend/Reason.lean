import SelectorTutorial.Backend.Detail
import SelectorTutorial.Json.Writer
import SelectorTutorial.Proofs.Json.Member
import SelectorTutorial.Proofs.Text.Blank

/-! What the body of a refusal is read to say, for each text that it can be. -/

namespace SelectorTutorial

namespace Refusal

/-- An entry has a message: it is an object, and a text is the last that it has under that name. -/
def HasMessage (entry : Json) (message : String) : Prop :=
  ∃ before after, entry = .object (before ++ ("msg", .text message) :: after) ∧
    "msg" ∉ after.map Prod.fst

/-- Each entry that has a message adds it, in the order of the entries, and no other entry does. -/
inductive Lists : List Json → List String → Prop
  | nil : Lists [] []
  | said {entry : Json} {message : String} {entries : List Json} {messages : List String}
      (has : HasMessage entry message) (rest : Lists entries messages) :
      Lists (entry :: entries) (message :: messages)
  | silent {entry : Json} {entries : List Json} {messages : List String}
      (silent : ∀ message, ¬ HasMessage entry message) (rest : Lists entries messages) :
      Lists (entry :: entries) messages

/-- What a detail conveys, by its kind. -/
inductive Conveys : Json → Option String → Prop
  | text {s : String} (solid : ¬ Text.IsBlank s) : Conveys (.text s) (some (Text.trim s))
  | blank {s : String} (blank : Text.IsBlank s) : Conveys (.text s) none
  | reasons {entries : List Json} {messages : List String} (lists : Lists entries messages)
      (told : messages ≠ []) : Conveys (.list entries) (some ("; ".intercalate messages))
  | untold {entries : List Json} (lists : Lists entries []) : Conveys (.list entries) none
  | other {detail : Json} (noText : ∀ s, detail ≠ .text s)
      (noList : ∀ entries, detail ≠ .list entries) : Conveys detail none

/-- What the text of a body carries, by what it is decoded to.  Of an object only its detail is
decoded to a value that is kept. -/
inductive Carries : Option Json → Option String → Prop
  /-- The text is not decoded. -/
  | undecoded : Carries none none
  /-- The text is decoded up to a detail that is no value, or is nested too deep. -/
  | unkept {detail : Json} {members : List (String × Json)} (inside : ("detail", detail) ∈ members)
      (unkept : detail.keepable detailLevels = false) : Carries (some (.object members)) none
  /-- The text is neither an object nor a list. -/
  | scalar {json : Json} (noObject : ∀ members, json ≠ .object members)
      (noList : ∀ items, json ≠ .list items) : Carries (some json) none
  /-- There is no detail. -/
  | absent {members : List (String × Json)} (absent : "detail" ∉ members.map Prod.fst) :
      Carries (some (.object members)) none
  /-- There is more than one detail. -/
  | repeated {members : List (String × Json)}
      (repeated : 2 ≤ (members.map Prod.fst).count "detail") :
      Carries (some (.object members)) none
  /-- There is one detail, and it counts whatever stands before and after it. -/
  | sole {before after : List (String × Json)} {detail : Json} {reason : Option String}
      (first : "detail" ∉ before.map Prod.fst) (last : "detail" ∉ after.map Prod.fst)
      (kept : detail.keepable detailLevels = true) (conveys : Conveys detail reason) :
      Carries (some (.object (before ++ ("detail", detail) :: after))) reason
  /-- A list of one item stands for an object with that detail. -/
  | listed {detail : Json} {reason : Option String}
      (object : Carries (some (.object [("detail", detail)])) reason) :
      Carries (some (.list [detail])) reason
  /-- No other list stands for anything. -/
  | unlisted {items : List Json} (size : items.length ≠ 1) : Carries (some (.list items)) none

variable {entry detail json : Json} {entries : List Json} {message : String}
  {messages : List String} {reason : Option String} {decoded : Option Json}

/-- The message that is read of an entry is the one that it has. -/
theorem entryMessage?_eq_some_iff :
    entryMessage? entry = some message ↔ HasMessage entry message := by
  rw [entryMessage?, Option.bind_eq_some_iff]
  constructor
  · -- Only an object has a value under that name, and only a text is read of it.
    rintro ⟨value, named, read⟩
    cases entry with
    | object members =>
      obtain ⟨before, after, rfl, last⟩ := Json.getLast?_membersNamed_eq_some_iff.mp named
      cases value with
      | text s =>
        cases read
        exact ⟨before, after, rfl, last⟩
      | null | bool | number | list | object | unreadable => cases read
    | null | bool | number | text | list | unreadable => cases named
  · rintro ⟨before, after, rfl, last⟩
    exact ⟨.text message, Json.getLast?_membersNamed_eq_some_iff.mpr ⟨_, _, rfl, last⟩, rfl⟩

/-- The messages that are read of a list are those that its entries have. -/
theorem filterMap_eq_iff_lists : entries.filterMap entryMessage? = messages ↔
    Lists entries messages := by
  constructor
  · -- Both lists are built entry by entry, and an entry adds what is read of it.
    rintro rfl
    induction entries with
    | nil => exact .nil
    | cons entry entries ih =>
      cases read : entryMessage? entry with
      | some message =>
        rw [List.filterMap_cons_some read]
        exact .said (entryMessage?_eq_some_iff.mp read) ih
      | none =>
        rw [List.filterMap_cons_none read]
        refine .silent (fun message has => ?_) ih
        cases read.symm.trans (entryMessage?_eq_some_iff.mpr has)
  · intro lists
    induction lists with
    | nil => rfl
    | said has _ ih => rw [List.filterMap_cons_some (entryMessage?_eq_some_iff.mpr has), ih]
    | @silent entry _ _ silent _ ih =>
      have none : entryMessage? entry = none := by
        rw [Option.eq_none_iff_forall_ne_some]
        exact fun message read => silent message (entryMessage?_eq_some_iff.mp read)
      rw [List.filterMap_cons_none none, ih]

/-- What is read of a detail is what it conveys. -/
theorem detailMessage?_eq_iff_conveys : detailMessage? detail = reason ↔ Conveys detail reason := by
  -- Case by case over the kinds of details, and back over the ways to convey something.
  constructor
  · rintro rfl
    cases detail with
    | text s =>
      by_cases blank : Text.trim s = ""
      · rw [detailMessage?, if_pos blank]
        exact .blank (Text.trim_eq_empty_iff.mp blank)
      · rw [detailMessage?, if_neg blank]
        exact .text (mt Text.trim_eq_empty_iff.mpr blank)
    | list entries =>
      have lists : Lists entries (entries.filterMap entryMessage?) := filterMap_eq_iff_lists.mp rfl
      by_cases untold : entries.filterMap entryMessage? = []
      · simp only [detailMessage?, untold, List.isEmpty_nil, if_true]
        exact .untold (untold ▸ lists)
      · simp only [detailMessage?, List.isEmpty_iff, untold, if_false]
        exact .reasons lists untold
    | null | bool | number | object | unreadable => exact .other nofun nofun
  · intro conveys
    cases conveys with
    | text solid => rw [detailMessage?, if_neg (mt Text.trim_eq_empty_iff.mp solid)]
    | blank blank => rw [detailMessage?, if_pos (Text.trim_eq_empty_iff.mpr blank)]
    | reasons lists told =>
      simp [detailMessage?, filterMap_eq_iff_lists.mpr lists, told]
    | untold lists => simp [detailMessage?, filterMap_eq_iff_lists.mpr lists]
    | other noText noList =>
      cases detail with
      | text s => exact absurd rfl (noText s)
      | list entries => exact absurd rfl (noList entries)
      | null | bool | number | object | unreadable => rfl

/-- An object is read for its one detail, and a missing one is read as null. -/
theorem ofJson?_object (members : List (String × Json)) :
    ofJson? (.object members) =
      (Json.sole? (some .null) kept? (Json.membersNamed "detail" members)).bind detailMessage? :=
  -- A record field with a default is read just as its sole member is.
  congrArg (·.bind detailMessage?) (Json.defaulted_eq_sole? kept? .null)

/-- What is read of an object is what it carries. -/
theorem carries_object (members : List (String × Json)) :
    Carries (some (.object members)) (ofJson? (.object members)) := by
  -- By the number of details there are.
  rw [ofJson?_object]
  match named : Json.membersNamed "detail" members with
  | [] => exact .absent (Json.membersNamed_eq_nil_iff.mp named)
  | [detail] =>
    -- The one detail is looked at only if it can be kept.
    rw [Json.sole?_singleton, kept?]
    cases kept : detail.keepable detailLevels with
    | true =>
      obtain ⟨before, after, rfl, first, last⟩ := Json.membersNamed_eq_singleton_iff.mp named
      exact .sole first last kept (detailMessage?_eq_iff_conveys.mp rfl)
    | false => exact .unkept (Json.mem_membersNamed.mp (by simp [named])) kept
  | first :: second :: rest =>
    have repeated : 2 ≤ (members.map Prod.fst).count "detail" := by
      rw [← Json.length_membersNamed, named]
      simp
    exact .repeated repeated

/-- Nothing is read of a list that is too long to stand for an object. -/
theorem ofJson?_list_of_long {items : List Json} (long : 1 < items.length) :
    ofJson? (.list items) = none := by
  -- A record with one field is written as a list of one item at most.
  have none : Json.record? ["detail"] (.list items) = none :=
    Json.record?_list_of_not_le (Nat.not_le.mpr long)
  rw [ofJson?, none]
  rfl

/-- What a text is decoded to carries what is read of it. -/
theorem carries_bind_ofJson? (decoded : Option Json) : Carries decoded (decoded.bind ofJson?) := by
  -- Only objects, and lists of one item that stand for them, carry anything.
  cases decoded with
  | none => exact .undecoded
  | some json =>
    cases json with
    | object members => exact carries_object members
    | list items =>
      match items with
      | [] => exact .unlisted (by simp)
      | [detail] => exact .listed (carries_object [("detail", detail)])
      | first :: second :: rest =>
        rw [Option.bind_some, ofJson?_list_of_long (by simp)]
        exact .unlisted (by simp)
    | null | bool | number | text | unreadable => exact .scalar nofun nofun

/-- Only what a text is decoded to carries is read of it. -/
theorem Carries.bind_ofJson?_eq (carries : Carries decoded reason) :
    decoded.bind ofJson? = reason := by
  -- A list of one item hangs on the object that it stands for, and nothing else is nested.
  induction carries with
  | undecoded => rfl
  | @unkept detail members inside unkept =>
    rw [Option.bind_some, ofJson?_object]
    -- Whether or not there are other details, this one keeps any from being read.
    have inside := Json.mem_membersNamed.mpr inside
    match Json.membersNamed "detail" members, inside with
    | [_], .head _ => simp [kept?, unkept]
    | _ :: _ :: _, _ => rfl
  | @scalar json noObject noList =>
    cases json with
    | object members => exact absurd rfl (noObject members)
    | list items => exact absurd rfl (noList items)
    | null | bool | number | text | unreadable => rfl
  | absent absent =>
    rw [Option.bind_some, ofJson?_object, Json.membersNamed_eq_nil_iff.mpr absent]
    rfl
  | @repeated members repeated =>
    rw [Option.bind_some, ofJson?_object]
    rw [← Json.length_membersNamed] at repeated
    match Json.membersNamed "detail" members, repeated with
    | _ :: _ :: _, _ => rfl
  | @sole before after detail reason first last kept conveys =>
    have named : Json.membersNamed "detail" (before ++ ("detail", detail) :: after) = [detail] :=
      Json.membersNamed_eq_singleton_iff.mpr ⟨before, after, rfl, first, last⟩
    rw [Option.bind_some, ofJson?_object, named, Json.sole?_singleton, kept?, if_pos kept]
    exact detailMessage?_eq_iff_conveys.mpr conveys
  | listed _ object => exact object
  | @unlisted items size =>
    match items with
    | [] => rfl
    | [_] => exact absurd rfl size
    | first :: second :: rest => exact ofJson?_list_of_long (by simp)

/-- What is read of a text is what it carries by what it is decoded to: for each text there is just
one such thing.  And of two texts that are decoded to objects with the same details the same is
read, whatever else the objects have, and wherever. -/
theorem detail?_eq_iff_carries (body : String) :
    (∀ reason, detail? body = reason ↔ Carries (Json.ofText? body) reason) ∧
    ∀ other members others, Json.ofText? body = some (.object members) →
      Json.ofText? other = some (.object others) →
      (members.filter fun member => member.1 == "detail") =
        (others.filter fun member => member.1 == "detail") →
      detail? body = detail? other := by
  -- To carry something is to be read as that, in both directions.
  constructor
  · intro reason
    constructor
    · rintro rfl
      exact carries_bind_ofJson? _
    · exact Carries.bind_ofJson?_eq
  · -- The details are all that is looked up.
    intro other members others decoded alike same
    simp only [detail?, decoded, alike, Option.bind_some, ofJson?_object, Json.membersNamed, same]

/-- Entries without a message are passed over, and so is what stands beside the detail. -/
example :
    let entries : List Json :=
      [.object [("msg", .text "no faces")], .text "msg", .object [("msg", .null)],
        .object [("msg", .null), ("loc", .list []), ("msg", .text "no edges")]]
    detail? (Json.object [("type", .list [.null]), ("detail", .list entries)]).toText =
      some "no faces; no edges" := by
  decide +kernel

end Refusal

end SelectorTutorial
