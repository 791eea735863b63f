import Mathlib.Data.List.Forall2
import SelectorTutorial.Navigation.Menu
import SelectorTutorial.Proofs.Session.Store
import SelectorTutorial.Session.LessonPage

/-! The order of the lessons as it is stored, looked up, listed in the menu and walked along. -/

namespace SelectorTutorial

section Place

variable {α β : Type} {p : α → Prop} {q : β → Prop} {f : α → β} {xs : List α}

/-- A place in a list is the first one where something is as wanted. -/
def IsFirstPlace (p : α → Prop) (xs : List α) (place : Nat) : Prop :=
  (∃ x, xs[place]? = some x ∧ p x) ∧ ∀ earlier < place, ∀ x ∈ xs[earlier]?, ¬ p x

/-- What stands directly before or after the first place where something is as wanted. -/
def IsBeside (p : α → Prop) (xs : List α) (x : α) : Direction → Prop
  | .previous => ∃ place, IsFirstPlace p xs (place + 1) ∧ xs[place]? = some x
  | .next => ∃ place, IsFirstPlace p xs place ∧ xs[place + 1]? = some x

/-- The first place is the one that a search from the front finds. -/
theorem findIdx?_eq_some_iff_isFirstPlace {found : α → Bool} {place : Nat} :
    xs.findIdx? found = some place ↔ IsFirstPlace (found · = true) xs place := by
  -- Both say that the place is inside, that it holds there, and that it holds at none before.
  rw [List.findIdx?_eq_some_iff_getElem, IsFirstPlace]
  constructor
  · rintro ⟨inside, holds, first⟩
    refine ⟨⟨xs[place], List.getElem?_eq_getElem inside, holds⟩, fun earlier before x there => ?_⟩
    obtain ⟨_, rfl⟩ := List.getElem?_eq_some_iff.mp there
    exact first earlier before
  · rintro ⟨⟨x, there, holds⟩, first⟩
    obtain ⟨inside, rfl⟩ := List.getElem?_eq_some_iff.mp there
    exact ⟨inside, holds, fun earlier before =>
      first earlier before _ (List.getElem?_eq_getElem _)⟩

/-- Places are the same in a list and in what it is mapped to. -/
theorem isFirstPlace_map {place : Nat} :
    IsFirstPlace q (xs.map f) place ↔ IsFirstPlace (fun x => q (f x)) xs place := by
  -- A place in the mapped list holds the image of what stands there.
  simp [IsFirstPlace]

/-- What is beside a place goes along when a list is mapped. -/
theorem isBeside_map {y : β} {direction : Direction} :
    IsBeside q (xs.map f) y direction ↔
      ∃ x, IsBeside (fun x => q (f x)) xs x direction ∧ f x = y := by
  -- The place beside is found first, and what stands there is mapped with it.
  cases direction with
  | previous | next =>
    simp only [IsBeside, isFirstPlace_map, List.getElem?_map, Option.map_eq_some_iff]
    constructor
    · rintro ⟨place, first, x, there, same⟩
      exact ⟨x, ⟨place, first, there⟩, same⟩
    · rintro ⟨x, ⟨place, first, there⟩, same⟩
      exact ⟨place, first, x, there, same⟩

end Place

/-- The neighbor of a lesson is what stands beside its first place in the order. -/
theorem Lesson.neighbor_eq_some_iff {order : List Lesson.Id} {current other : Lesson.Id}
    {direction : Direction} :
    Lesson.neighbor order current direction = some other ↔
      IsBeside (· = current) order other direction := by
  -- To find the lesson is to find its first place, whichever way is gone from there.
  have first {place : Nat} : order.findIdx? (· == current) = some place ↔
      IsFirstPlace (· = current) order place := by
    rw [findIdx?_eq_some_iff_isFirstPlace]
    simp only [beq_iff_eq]
  cases direction with
  | next =>
    rw [Lesson.neighbor, Option.bind_eq_some_iff]
    simp only [IsBeside, first]
  | previous =>
    rw [Lesson.neighbor, IsBeside]
    simp only [← first]
    -- A lesson in front has its place, but nothing stands before that.
    cases order.findIdx? (· == current) with
    | none => simp
    | some place =>
      cases place with
      | zero => simp
      | succ place => simp

namespace Snapshot

/-- The order is that of the lessons. -/
def KeepsOrder (s : Snapshot) : Prop :=
  s.order = s.lessons.map (·.id)

/-- No change parts the order from the lessons. -/
theorem KeepsOrder.apply {s : Snapshot} (keeps : s.KeepsOrder) (now : Timestamp) (change : Change) :
    (s.apply now change).KeepsOrder := by
  -- Only fetched lessons change either of them, and they change both.
  cases change with
  | lessons fetched => rfl
  | result reached => cases reached <;> exact keeps
  | examples | model | mode => exact keeps

/-- The order is that of the lessons after any row of changes. -/
theorem KeepsOrder.dispatchAll (store : Store) (keeps : store.current.KeepsOrder)
    (log : List DatedChange) : (store.dispatchAll log).current.KeepsOrder := by
  -- Change by change, from the front.
  induction log generalizing store with
  | nil => exact keeps
  | cons c log ih => exact ih (store.dispatch c.time c.change) (keeps.apply c.time c.change)

variable {s : Snapshot}

/-- The index of a lesson is the first place where a lesson has its id. -/
theorem KeepsOrder.lessonIndex_eq_some_iff (keeps : s.KeepsOrder) {id : Lesson.Id} {place : Nat} :
    s.lessonIndex id = some place ↔ IsFirstPlace (·.id = id) s.lessons place := by
  -- The index is searched in the order, which is the list of the ids.
  rw [lessonIndex, keeps, findIdx?_eq_some_iff_isFirstPlace, isFirstPlace_map]
  simp only [beq_iff_eq]

/-- The lesson with an id is the one that stands at the index of that id. -/
theorem KeepsOrder.lesson?_eq (keeps : s.KeepsOrder) (id : Lesson.Id) :
    s.lesson? id = (s.lessonIndex id).bind (s.lessons[·]?) := by
  -- The lesson is searched among the lessons and the index among their ids, so both searches stop
  -- at one place.
  rw [lesson?, lessonIndex, keeps, List.findIdx?_map]
  exact List.find?_eq_bind_findIdx?_getElem?

end Snapshot

/-- A link leads to the page of a lesson, and is active just while that page is shown. -/
structure Menu.Link.LeadsTo (current : Route) (id : Lesson.Id) (link : Menu.Link) : Prop where
  /-- Where the link leads. -/
  route_eq : link.route = .lesson id
  /-- When it is active. -/
  isActive_iff : link.isActive = true ↔ current = .lesson id

namespace Snapshot

variable {s : Snapshot}

/-- The links of the menu lead to the lessons in their order. -/
theorem KeepsOrder.leadsTo (keeps : s.KeepsOrder) (current : Route) :
    List.Forall₂ (Menu.Link.LeadsTo current) s.order (s.menu current).lessons := by
  -- Order and menu are both made of the lessons, one by one.
  rw [keeps, menu, List.forall₂_map_left_iff, List.forall₂_map_right_iff, List.forall₂_same]
  exact fun l _ => ⟨rfl, by rw [Menu.Link.to, beq_iff_eq, eq_comm]⟩

/-- Where the links of the menu lead to. -/
theorem KeepsOrder.map_route (keeps : s.KeepsOrder) (current : Route) :
    (s.menu current).lessons.map (·.route) = s.order.map .lesson := by
  -- Each link leads to the lesson that it was made of.
  rw [keeps, menu, List.map_map, List.map_map]
  rfl

/-- The overview starts where the first link of the menu leads. -/
theorem KeepsOrder.start_eq (keeps : s.KeepsOrder) (current : Route) :
    s.overview.start =
      ((s.menu current).lessons.head?.map (·.route)).getD (.lessons none) := by
  -- Both starts are told by the head of the order.
  rw [← List.head?_map, keeps.map_route, List.head?_map, overview, firstLesson]
  cases s.order.head? <;> rfl

/-- The page beside the one of a lesson is where the link beside the first link to it leads. -/
theorem KeepsOrder.neighborRoute_eq_some_iff (keeps : s.KeepsOrder) (current : Route)
    {page : LessonPage} {direction : Direction} {route : Route} :
    page.neighborRoute s direction = some route ↔
      ∃ l ∈ page.lesson, ∃ link,
        IsBeside (·.route = .lesson l.id) (s.menu current).lessons link direction ∧
        link.route = route := by
  -- The order of the lessons and the menu are two pictures of the same list.
  have injective {id other : Lesson.Id} : Route.lesson id = .lesson other ↔ id = other := by
    simp [Route.lesson]
  rw [LessonPage.neighborRoute, Option.bind_eq_some_iff]
  refine exists_congr fun l => and_congr_right fun _ => ?_
  -- Both the order and the links are mapped to the same routes.
  rw [← isBeside_map (q := (· = .lesson l.id)) (f := Menu.Link.route), keeps.map_route,
    isBeside_map]
  simp only [injective, ← Lesson.neighbor_eq_some_iff, Option.map_eq_some_iff]

end Snapshot

namespace Store

/-- After any row of changes the order is that of the lessons, whatever ids the lessons have, and
all that is told by the order agrees with it.  The index of an id is the first place where a lesson
has it, and the lesson with that id is the one at that place.  The menu has a link for each lesson
in the order, active just while the page of the lesson is shown, and the overview starts where the
first link leads.  Walking on from the lesson of a page, or back from it, leads where the link after
or before the first link to that lesson does, and nowhere if there is no such link. -/
theorem views_agree_on_order (log : List Snapshot.DatedChange) (current : Route) :
    let s := (({} : Store).dispatchAll log).current
    s.order = s.lessons.map (·.id) ∧
    (∀ id place, s.lessonIndex id = some place ↔ IsFirstPlace (·.id = id) s.lessons place) ∧
    (∀ id, s.lesson? id = (s.lessonIndex id).bind (s.lessons[·]?)) ∧
    List.Forall₂ (Menu.Link.LeadsTo current) s.order (s.menu current).lessons ∧
    s.overview.start = ((s.menu current).lessons.head?.map (·.route)).getD (.lessons none) ∧
    ∀ page : LessonPage, ∀ direction route,
      page.neighborRoute s direction = some route ↔
        ∃ l ∈ page.lesson, ∃ link,
          IsBeside (·.route = .lesson l.id) (s.menu current).lessons link direction ∧
          link.route = route := by
  -- Everything follows from the one invariant, that the order is that of the lessons.
  have keeps : (({} : Store).dispatchAll log).current.KeepsOrder :=
    Snapshot.KeepsOrder.dispatchAll {} rfl log
  exact ⟨keeps, fun _ _ => keeps.lessonIndex_eq_some_iff, keeps.lesson?_eq, keeps.leadsTo current,
    keeps.start_eq current, fun _ _ _ => keeps.neighborRoute_eq_some_iff current⟩

/-- From the second lesson with an id one walks on as from the first one. -/
example :
    let twice : Lesson := { id := ⟨"faces"⟩, title := "Faces" }
    let other : Lesson := { id := ⟨"edges"⟩, title := "Edges" }
    let s := (({} : Store).dispatchAll [⟨⟨1⟩, .lessons [twice, other, twice]⟩]).current
    s.lessonIndex twice.id = some 0 ∧
    ({ lesson := some twice } : LessonPage).neighborRoute s .next = some (.lesson other.id) ∧
    ({ lesson := some twice } : LessonPage).neighborRoute s .previous = none := by
  decide

end Store

end SelectorTutorial
