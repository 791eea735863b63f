import Mathlib.Data.List.Nodup
import SelectorTutorial.Navigation.Neighbor

/-! Walking on from lesson to lesson, and when such a walk comes to an end. -/

namespace SelectorTutorial

namespace Lesson

variable {order before rest : List Lesson.Id} {id other : Lesson.Id}

/-! ### Neighbors -/

/-- A lesson that is not in the order has no place there. -/
theorem findIdx?_of_not_mem (missing : id ∉ order) : order.findIdx? (· == id) = none := by
  -- The search would have to find the lesson itself.
  rw [List.findIdx?_eq_none_iff]
  intro other inside
  exact beq_eq_false_iff_ne.mpr fun same => missing (same ▸ inside)

/-- The first place of a lesson is the one behind a part of the order that does not have it. -/
theorem findIdx?_append_cons (first : id ∉ before) :
    (before ++ id :: rest).findIdx? (· == id) = some before.length := by
  -- The search passes over the whole part before it, and stops at once after that.
  simp [List.findIdx?_append, List.findIdx?_cons, findIdx?_of_not_mem first]

/-- After a lesson comes what stands behind its first place. -/
theorem neighbor_next_append (first : id ∉ before) :
    neighbor (before ++ id :: rest) id .next = rest.head? := by
  -- The search stops at the first place, and one further on is the head of the rest.
  rw [neighbor, findIdx?_append_cons first, Option.bind_some,
    List.getElem?_append_right (Nat.le_succ _)]
  simp [List.head?_eq_getElem?]

/-- Before a lesson comes what stands in front of its first place. -/
theorem neighbor_previous_append (first : id ∉ before) :
    neighbor (before ++ id :: rest) id .previous = before.getLast? := by
  rw [neighbor, findIdx?_append_cons first, List.getLast?_eq_getElem?]
  -- The lesson in front of all others has none before it.
  cases split : before.length with
  | zero => simp [List.length_eq_zero_iff.mp split]
  | succ place =>
    have inside : place < before.length := by omega
    simp [List.getElem?_append_left inside]

/-- A lesson that has no place has no neighbors. -/
theorem neighbor_of_not_mem (missing : id ∉ order) (direction : Direction) :
    neighbor order id direction = none := by
  -- Without a place there is nothing beside it.
  cases direction <;> simp [neighbor, findIdx?_of_not_mem missing]

/-- One lesson comes after another where it stands behind the first place of that one. -/
theorem neighbor_next_eq_some_iff :
    neighbor order id .next = some other ↔
      ∃ before rest, order = before ++ id :: other :: rest ∧ id ∉ before := by
  -- The order is split at the first place of the lesson, and the next one is the head of its rest.
  constructor
  · intro after
    have inside : id ∈ order := by
      by_contra missing
      simp [neighbor_of_not_mem missing] at after
    obtain ⟨before, rest, rfl, first⟩ := List.eq_append_cons_of_mem inside
    rw [neighbor_next_append first] at after
    obtain ⟨rest, rfl⟩ := List.head?_eq_some_iff.mp after
    exact ⟨before, rest, rfl, first⟩
  · rintro ⟨before, rest, rfl, first⟩
    rw [neighbor_next_append first]
    rfl

/-- One lesson comes before another where it stands in front of the first place of that one. -/
theorem neighbor_previous_eq_some_iff :
    neighbor order id .previous = some other ↔
      ∃ before rest, order = before ++ other :: id :: rest ∧ id ∉ before ++ [other] := by
  -- The order is split at the first place of the lesson, and the one before is the last of its
  -- front.
  constructor
  · intro before
    have inside : id ∈ order := by
      by_contra missing
      simp [neighbor_of_not_mem missing] at before
    obtain ⟨front, rest, rfl, first⟩ := List.eq_append_cons_of_mem inside
    rw [neighbor_previous_append first] at before
    obtain ⟨front, rfl⟩ := List.getLast?_eq_some_iff.mp before
    exact ⟨front, rest, by simp, first⟩
  · rintro ⟨before, rest, rfl, first⟩
    have split : before ++ other :: id :: rest = (before ++ [other]) ++ id :: rest := by simp
    rw [split, neighbor_previous_append first]
    simp

/-- Where no lesson stands twice, none stands in front of itself. -/
theorem not_mem_of_distinct (distinct : (before ++ id :: rest).Nodup) : id ∉ before :=
  -- It would stand on both sides of the split.
  fun inside =>
    List.disjoint_of_nodup_append distinct inside List.mem_cons_self

/-- Where no lesson stands twice, going on and going back undo each other. -/
theorem neighbor_next_iff_previous (distinct : order.Nodup) :
    neighbor order id .next = some other ↔ neighbor order other .previous = some id := by
  rw [neighbor_next_eq_some_iff, neighbor_previous_eq_some_iff]
  refine exists_congr fun before => exists_congr fun rest => and_congr_right ?_
  -- Neither of the two stands anywhere else, so both conditions hold.
  rintro rfl
  have split : before ++ id :: other :: rest = (before ++ [id]) ++ other :: rest := by simp
  exact iff_of_true (not_mem_of_distinct distinct) (not_mem_of_distinct (split ▸ distinct))

/-! ### Walks -/

/-- A walk goes on from a lesson until none comes after it, and passes some lessons. -/
inductive Walks (order : List Lesson.Id) : Lesson.Id → List Lesson.Id → Prop
  /-- The walk ends with a lesson that none comes after. -/
  | last {id : Lesson.Id} (ends : neighbor order id .next = none) : Walks order id [id]
  /-- The walk goes on with the lesson that comes after. -/
  | goOn {id next : Lesson.Id} {passed : List Lesson.Id}
      (after : neighbor order id .next = some next) (walks : Walks order next passed) :
      Walks order id (id :: passed)

/-- There is only one walk from a lesson. -/
theorem Walks.unique {passed others : List Lesson.Id} (walks : Walks order id passed)
    (walks' : Walks order id others) : passed = others := by
  -- A walk ends where there is no next lesson and goes on where there is one, so two of them never
  -- part.
  induction walks generalizing others with
  | last ends =>
    cases walks' with
    | last => rfl
    | goOn after => simp [ends] at after
  | @goOn id next passed after walks ih =>
    cases walks' with
    | last ends => simp [ends] at after
    | goOn after' walks' =>
      obtain rfl : next = _ := Option.some.inj (after.symm.trans after')
      rw [ih walks']

/-- Where no lesson stands twice, a walk passes all that is left of the order. -/
theorem walks_append (distinct : (before ++ id :: rest).Nodup) :
    Walks (before ++ id :: rest) id (id :: rest) := by
  -- The walk passes what is left one by one, and the part before it grows by the same.
  induction rest generalizing before id with
  | nil =>
    have first := not_mem_of_distinct distinct
    exact .last (neighbor_next_append first)
  | cons next rest ih =>
    have first := not_mem_of_distinct distinct
    have split : before ++ id :: next :: rest = (before ++ [id]) ++ next :: rest := by simp
    refine .goOn (neighbor_next_append first) ?_
    rw [split]
    exact ih (split ▸ distinct)

/-- A walk that ends, and before which no lesson stood twice, has met no lesson twice.  For from the
second place of a lesson it would go back to the first one, and pass the same lessons once more. -/
theorem Walks.nodup {passed : List Lesson.Id} (walks : Walks order id passed)
    (split : order = before ++ id :: rest) (distinct : (before ++ [id]).Nodup) : order.Nodup := by
  -- The induction is on the walk; what it keeps is that up to where it is no lesson stands twice.
  induction walks generalizing before rest with
  | @last id ends =>
    have first := not_mem_of_distinct distinct
    rw [split, neighbor_next_append first, List.head?_eq_none_iff] at ends
    rwa [split, ends]
  | @goOn id next passed after walks ih =>
    have first := not_mem_of_distinct distinct
    rw [split, neighbor_next_append first] at after
    obtain ⟨rest, rfl⟩ := List.head?_eq_some_iff.mp after
    by_cases met : next ∈ before ++ [id]
    · -- The walk goes back to the first place of the lesson, and less stands before that.
      obtain ⟨front, back, parts, -⟩ := List.eq_append_cons_of_mem met
      have again : order = front ++ next :: (back ++ next :: rest) := by
        rw [split, List.append_cons, parts]
        simp
      have fewer : (front ++ [next]).Sublist (before ++ [id]) := by
        rw [parts]
        simp
      exact ih again (distinct.sublist fewer)
    · -- The walk goes on to a lesson that it has not met so far.
      have further : order = (before ++ [id]) ++ next :: rest := by
        rw [split]
        simp
      exact ih further (List.nodup_append_comm.mpr (List.nodup_cons.mpr ⟨met, distinct⟩))

/-- From the first lesson on, a walk comes to an end just when no lesson stands twice in the order,
and then it passes the whole order.  And where no lesson stands twice, one lesson comes after
another just when that one comes before it. -/
theorem walk_ends_iff_nodup :
    (∀ (first : Lesson.Id) (rest : List Lesson.Id),
      ((∃ passed, Walks (first :: rest) first passed) ↔ (first :: rest).Nodup) ∧
        ∀ passed, Walks (first :: rest) first passed → passed = first :: rest) ∧
    ∀ order : List Lesson.Id, order.Nodup → ∀ x y,
      neighbor order x .next = some y ↔ neighbor order y .previous = some x := by
  -- An order without repetition is a walk itself, and a walk that ends has no repetition.
  have whole (first : Lesson.Id) (rest : List Lesson.Id) (distinct : (first :: rest).Nodup) :
      Walks (first :: rest) first (first :: rest) := @walks_append [] rest first distinct
  have ends {first : Lesson.Id} {rest passed : List Lesson.Id}
      (walks : Walks (first :: rest) first passed) : (first :: rest).Nodup :=
    -- There is nothing before the first lesson.
    walks.nodup (rfl : _ = [] ++ first :: rest) (List.nodup_singleton first)
  refine ⟨fun first rest => ⟨⟨?_, fun distinct => ⟨_, whole first rest distinct⟩⟩, ?_⟩, ?_⟩
  · rintro ⟨passed, walks⟩
    exact ends walks
  · intro passed walks
    exact walks.unique (whole first rest (ends walks))
  · intro order distinct x y
    exact neighbor_next_iff_previous distinct

/-- From the second lesson with an id a walk goes back behind the first one. -/
example :
    let order : List Lesson.Id := [⟨"faces"⟩, ⟨"edges"⟩, ⟨"faces"⟩, ⟨"chains"⟩]
    neighbor order ⟨"edges"⟩ .next = some ⟨"faces"⟩ ∧
    neighbor order ⟨"faces"⟩ .next = some ⟨"edges"⟩ := by
  decide

end Lesson

end SelectorTutorial
