import SelectorTutorial.Json.Record
import Mathlib.Data.List.Basic

/-! What an object has under a name: it hangs neither on the order of the members nor on the members
under other names. -/

namespace SelectorTutorial

namespace Json

variable {α : Type} {name : String} {value : Json} {members others : List (String × Json)}

/-- Without members none has the name. -/
@[simp]
theorem membersNamed_nil (name : String) : membersNamed name [] = [] := rfl

/-- A member counts under its own name. -/
@[simp]
theorem membersNamed_cons_self (name : String) (value : Json) (members : List (String × Json)) :
    membersNamed name ((name, value) :: members) = value :: membersNamed name members := by
  -- The filter keeps it.
  simp [membersNamed]

/-- A member does not count under another name. -/
@[simp]
theorem membersNamed_cons_of_ne {key : String} (other : key ≠ name) (value : Json)
    (members : List (String × Json)) :
    membersNamed name ((key, value) :: members) = membersNamed name members := by
  -- The filter drops it.
  simp [membersNamed, other]

/-- The members under a name in two lists come one after the other. -/
@[simp]
theorem membersNamed_append (name : String) (members others : List (String × Json)) :
    membersNamed name (members ++ others) =
      membersNamed name members ++ membersNamed name others := by
  -- Both filtering and mapping go through a list item by item.
  simp [membersNamed]

/-- A value is one of those under a name just when it is there as a member. -/
theorem mem_membersNamed : value ∈ membersNamed name members ↔ (name, value) ∈ members := by
  -- The name is what the filter asks for.
  simp [membersNamed]

/-- There are as many members under a name as the name is there. -/
theorem length_membersNamed :
    (membersNamed name members).length = (members.map Prod.fst).count name := by
  -- To count a name in the list of names is to filter the members by it.
  rw [membersNamed, List.length_map, List.count_eq_length_filter, List.filter_map, List.length_map]
  rfl

/-- No member is under a name that is not there. -/
theorem membersNamed_eq_nil_iff : membersNamed name members = [] ↔ name ∉ members.map Prod.fst := by
  -- There are none just when their number is zero.
  rw [← List.length_eq_zero_iff, length_membersNamed, List.count_eq_zero]

/-- A value that is the only one under a name is the value of a member that has no other of its name
beside it. -/
theorem membersNamed_eq_singleton_iff :
    membersNamed name members = [value] ↔
      ∃ before after, members = before ++ (name, value) :: after ∧
        name ∉ before.map Prod.fst ∧ name ∉ after.map Prod.fst := by
  -- The one member splits the list in two, and neither side has another of its name.
  simp only [← membersNamed_eq_nil_iff]
  constructor
  · intro sole
    have inside : (name, value) ∈ members := mem_membersNamed.mp (by simp [sole])
    obtain ⟨before, after, rfl⟩ := List.append_of_mem inside
    simp only [membersNamed_append, membersNamed_cons_self, List.append_eq_singleton_iff,
      List.cons.injEq, reduceCtorEq, and_false, or_false, true_and] at sole
    exact ⟨before, after, rfl, sole⟩
  · rintro ⟨before, after, rfl, first, last⟩
    simp [first, last]

/-- The last value under a name is the value of a member that has no other of its name after it. -/
theorem getLast?_membersNamed_eq_some_iff :
    (membersNamed name members).getLast? = some value ↔
      ∃ before after, members = before ++ (name, value) :: after ∧
        name ∉ after.map Prod.fst := by
  -- The place of the last value among the values gives the place of its member.
  constructor
  · intro last
    obtain ⟨values, split⟩ := List.getLast?_eq_some_iff.mp last
    -- The members are cut in two, so that the second part has just the last value.
    obtain ⟨front, back, filtered, -, mapped⟩ := List.map_eq_append_iff.mp split
    obtain ⟨front, back, rfl, -, rfl⟩ := List.filter_eq_append_iff.mp filtered
    obtain ⟨before, after, rfl, -, none⟩ := membersNamed_eq_singleton_iff.mp mapped
    exact ⟨front ++ before, after, (List.append_assoc ..).symm, none⟩
  · rintro ⟨before, after, rfl, none⟩
    simp [membersNamed_eq_nil_iff.mpr none]

/-- The members in another order have the same values under a name, in another order. -/
theorem membersNamed_perm (order : members.Perm others) :
    (membersNamed name members).Perm (membersNamed name others) :=
  -- Neither filtering nor mapping looks at the order.
  (order.filter _).map _

/-- A list that is not too long stands for the members whose values it lists. -/
theorem record?_list_of_le {fields : List String} {items : List Json}
    (fits : items.length ≤ fields.length) :
    record? fields (.list items) = some (fields.zip items) :=
  -- The length is all that is checked.
  if_pos fits

/-- A list that is too long stands for no members. -/
theorem record?_list_of_not_le {fields : List String} {items : List Json}
    (long : ¬ items.length ≤ fields.length) : record? fields (.list items) = none :=
  -- The length is all that is checked.
  if_neg long

/-- What one value stands for, or nothing, when at most one value is let through. -/
def sole? (absent : Option α) (read : Json → Option α) : List Json → Option α
  | [] => absent
  | [value] => read value
  | _ => none

/-- The only value is read. -/
@[simp]
theorem sole?_singleton (absent : Option α) (read : Json → Option α) (value : Json) :
    sole? absent read [value] = read value := rfl

/-- A required member is the only one under its name. -/
theorem required_eq_sole? (read : Json → Option α) :
    required name read members = sole? none read (membersNamed name members) := by
  rw [required]
  -- No value and more than one are refused alike.
  rcases membersNamed name members with _ | ⟨value, _ | ⟨next, rest⟩⟩ <;> rfl

/-- A member with a default is the only one under its name, or missing. -/
theorem defaulted_eq_sole? (read : Json → Option α) (default : α) :
    defaulted name read default members =
      sole? (some default) read (membersNamed name members) := by
  -- There is no member, or one, or too many.
  rw [defaulted]
  rcases membersNamed name members with _ | ⟨value, _ | ⟨next, rest⟩⟩ <;> rfl

/-- An optional member is the only one under its name and may be null, or is missing. -/
theorem optional_eq_sole? (read : Json → Option α) :
    optional name read members =
      sole? (some none) (nullable? read) (membersNamed name members) := by
  -- It has nothing for its default, and null is read as that.
  rw [optional, defaulted_eq_sole?]

/-- A list with at most one value has no other order, and one with more is refused in any order. -/
theorem sole?_perm {absent : Option α} {read : Json → Option α} {values rest : List Json}
    (order : values.Perm rest) : sole? absent read values = sole? absent read rest := by
  -- Only whether there is one value, and which, counts.
  match values with
  | [] =>
    obtain rfl : rest = [] := List.nil_perm.mp order
    rfl
  | [value] =>
    obtain rfl : [value] = rest := List.singleton_perm.mp order
    rfl
  | first :: second :: more =>
    -- The other list is as long, so it is refused too.
    have length : rest.length = more.length + 2 := order.length_eq.symm
    match rest, length with
    | _ :: _ :: _, _ => rfl

/-- One of several values counts for no more than what it is read as. -/
theorem sole?_middle {absent : Option α} {read : Json → Option α} {value other : Json}
    (same : read value = read other) (before after : List Json) :
    sole? absent read (before ++ value :: after) =
      sole? absent read (before ++ other :: after) := by
  -- With another value beside it nothing is read at all.
  match before, after with
  | [], [] => exact same
  | [], _ :: _ => rfl
  | [_], _ => rfl
  | _ :: _ :: _, _ => rfl

/-- What is not null is read as if it could not be. -/
theorem nullable?_of_ne {read : Json → Option α} (present : value ≠ .null) :
    nullable? read value = (read value).map some := by
  -- Only null is looked at before reading.
  cases value with
  | null => exact absurd rfl present
  | bool | number | text | list | object | unreadable => rfl

/-- A value is read of a member just when the member is there once and has that value, or is missing
and the value stands for that. -/
theorem sole?_membersNamed_eq_some_iff {absent : Option α} {read : Json → Option α} {a : α} :
    sole? absent read (membersNamed name members) = some a ↔
      (membersNamed name members).length ≤ 1 ∧
        (∀ value, (name, value) ∈ members → read value = some a) ∧
        (name ∉ members.map Prod.fst → absent = some a) := by
  -- All three parts are about the values under the name.
  have named : name ∈ members.map Prod.fst ↔ ∃ value, value ∈ membersNamed name members := by
    simp [mem_membersNamed]
  simp only [named, ← mem_membersNamed]
  -- Of the list of values only its length matters and, if there is one value, that value.
  match membersNamed name members with
  | [] => simp [sole?]
  | [value] => simp [sole?]
  | first :: second :: more => simp [sole?]

/-- Something is read of a member just when it is there at most once, it may be missing if it is,
and its value can be read if it is there. -/
theorem isSome_sole?_membersNamed_iff {absent : Option α} {read : Json → Option α} :
    (sole? absent read (membersNamed name members)).isSome ↔
      (membersNamed name members).length ≤ 1 ∧
        (absent = none → name ∈ members.map Prod.fst) ∧
        ∀ value, (name, value) ∈ members → (read value).isSome := by
  -- All three conditions are about the values under the name; there is none of them, or one, or
  -- more.
  have named : name ∈ members.map Prod.fst ↔ ∃ value, value ∈ membersNamed name members := by
    simp [mem_membersNamed]
  simp only [named, ← mem_membersNamed]
  match membersNamed name members with
  | [] =>
    cases absent with
    | none => simp [sole?]
    | some default => simp [sole?]
  | [value] => simp [sole?]
  | first :: second :: more => simp [sole?]

end Json

end SelectorTutorial
