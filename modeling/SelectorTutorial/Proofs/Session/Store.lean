import Mathlib.Data.List.Induction
import Mathlib.Logic.Function.Iterate
import SelectorTutorial.Session.Store

/-! What is shared after any row of changes, told from the changes alone. -/

namespace SelectorTutorial

namespace Snapshot

/-- A change, and when it is made. -/
structure DatedChange where
  /-- When it is made. -/
  time : Timestamp
  /-- What is changed. -/
  change : Change
deriving DecidableEq, Repr

/-- The parts of a snapshot, each of which has its own kind of change. -/
inductive Part where
  /-- The lessons and their order. -/
  | lessons
  /-- The examples. -/
  | examples
  /-- The model. -/
  | model
  /-- The result and the history. -/
  | result
  /-- The mode. -/
  | mode
deriving DecidableEq, Repr

/-- The part that a change is about. -/
def Change.part : Change → Part
  | .lessons _ => .lessons
  | .examples _ => .examples
  | .model _ => .model
  | .result _ => .result
  | .mode => .mode

/-- The lessons that a change brings. -/
@[simp] def Change.lessons? : Change → Option (List Lesson)
  | .lessons fetched => some fetched
  | _ => none

/-- The examples that a change brings. -/
@[simp] def Change.examples? : Change → Option (List Example)
  | .examples fetched => some fetched
  | _ => none

/-- The model that a change brings, or that it takes away. -/
@[simp] def Change.model? : Change → Option (Option Model)
  | .model compiled => some compiled
  | _ => none

/-- The result that a change brings, or that it takes away. -/
@[simp] def Change.result? : Change → Option (Option Selection.Result)
  | .result reached => some reached
  | _ => none

/-- Whether a change turns the mode over. -/
@[simp] def Change.togglesMode : Change → Bool
  | .mode => true
  | _ => false

/-- What is to be remembered of a change: a result with its time. -/
@[simp] def DatedChange.entry? (c : DatedChange) : Option HistoryEntry :=
  -- A result that is taken away leaves nothing to remember.
  match c.change with
  | .result (some result) => some ⟨c.time, result⟩
  | _ => none

/-- The last thing of some kind that a row of changes brings. -/
def lastOf {α : Type} (brings : Change → Option α) (log : List DatedChange) : Option α :=
  (log.filterMap fun c => brings c.change).getLast?

/-- All that a row of changes gives to remember, the oldest first. -/
def entriesOf (log : List DatedChange) : List HistoryEntry :=
  log.filterMap DatedChange.entry?

/-- A snapshot with the last of each kind that a row of changes brings, and with what the row gives
to remember in front of what was remembered before. -/
def settled (s : Snapshot) (log : List DatedChange) : Snapshot where
  lessons := (lastOf Change.lessons? log).getD s.lessons
  order := ((lastOf Change.lessons? log).map (·.map (·.id))).getD s.order
  examples := (lastOf Change.examples? log).getD s.examples
  model := (lastOf Change.model? log).getD s.model
  result := (lastOf Change.result? log).getD s.result
  history :=
    -- A history that is too long from the start is cut only once there is more to remember.
    if entriesOf log = [] then s.history
    else ((entriesOf log).reverse ++ s.history).take historyLimit
  mode := DisplayMode.toggled^[log.countP (·.change.togglesMode)] s.mode

/-- Without changes nothing was brought. -/
@[simp] theorem lastOf_nil {α : Type} (brings : Change → Option α) : lastOf brings [] = none := rfl

/-- A change that brings something of a kind comes after all that was brought before. -/
@[simp] theorem lastOf_append {α : Type} (brings : Change → Option α) (log : List DatedChange)
    (c : DatedChange) :
    lastOf brings (log ++ [c]) = (brings c.change).or (lastOf brings log) := by
  -- The last change decides, unless it brings nothing of the kind.
  simp only [lastOf, List.filterMap_append, List.getLast?_append]
  cases brought : brings c.change <;> simp [brought]

/-- Without changes there is nothing to remember. -/
@[simp] theorem entriesOf_nil : entriesOf [] = [] := rfl

/-- What a change gives to remember is newer than all that came before. -/
@[simp] theorem entriesOf_append (log : List DatedChange) (c : DatedChange) :
    entriesOf (log ++ [c]) = entriesOf log ++ c.entry?.toList := by
  -- The last change adds one entry or none.
  simp only [entriesOf, List.filterMap_append]
  cases remembered : c.entry? <;>
    simp only [List.filterMap_cons, List.filterMap_nil, remembered, Option.toList]

/-- Without changes all stays as it was. -/
@[simp] theorem settled_nil (s : Snapshot) : s.settled [] = s := rfl

/-- The history after a result was reached has that result in front, and drops the oldest one if it
would be too long. -/
theorem cons_take_history (entry : HistoryEntry) (entries old : List HistoryEntry) :
    entry :: (if entries = [] then old else (entries.reverse ++ old).take historyLimit).take
        (historyLimit - 1) =
      (((entries ++ [entry]).reverse ++ old).take historyLimit) := by
  -- Cutting to the limit first makes no difference to the part that is kept.
  by_cases none : entries = []
  · subst none
    simp [historyLimit]
  · simp [none, List.take_take, historyLimit]

/-- One more change acts on what the changes before have come to. -/
theorem settled_append (s : Snapshot) (log : List DatedChange) (c : DatedChange) :
    s.settled (log ++ [c]) = (s.settled log).apply c.time c.change := by
  -- Each kind of change is the last of its kind, and leaves the last of the other kinds alone.
  obtain ⟨time, change⟩ := c
  cases change with
  | lessons fetched | examples fetched | model compiled => simp [settled, apply]
  | mode => simp [settled, apply, toggleMode, Function.iterate_succ_apply']
  | result reached =>
    cases reached with
    | none => simp [settled, apply]
    | some result =>
      have history := cons_take_history ⟨time, result⟩ (entriesOf log) s.history
      simp [settled, apply, history]

/-- Changes to different parts do not get in each other's way. -/
theorem apply_comm (s : Snapshot) {first second : Change} (now later : Timestamp)
    (apart : first.part ≠ second.part) :
    (s.apply now first).apply later second = (s.apply later second).apply now first := by
  -- Of two changes to different parts neither reads what the other one writes.
  cases first with
  | result reached =>
    cases reached <;> cases second <;> first | rfl | exact absurd rfl apart
  | lessons | examples | model | mode =>
    cases second with
    | result reached => cases reached <;> rfl
    | lessons | examples | model | mode => first | rfl | exact absurd rfl apart

/-- A history that was not too long at first never is. -/
theorem length_history_settled_le {s : Snapshot} (short : s.history.length ≤ historyLimit)
    (log : List DatedChange) : (s.settled log).history.length ≤ historyLimit := by
  -- Either nothing was remembered, or the history was cut to the limit.
  simp only [settled]
  split
  · exact short
  · exact List.length_take_le _ _

end Snapshot

namespace Store

/-- A store after a row of changes that are made one by one. -/
def dispatchAll (s : Store) (log : List Snapshot.DatedChange) : Store :=
  log.foldl (fun s c => s.dispatch c.time c.change) s

/-- A row of changes can be made in two parts. -/
@[simp] theorem dispatchAll_append (s : Store) (log rest : List Snapshot.DatedChange) :
    s.dispatchAll (log ++ rest) = (s.dispatchAll log).dispatchAll rest := by
  -- To fold over two lists is to go on after the first.
  simp only [dispatchAll, List.foldl_append]

/-- What is shared after a row of changes is told by the last change of each kind. -/
theorem current_dispatchAll (s : Store) (log : List Snapshot.DatedChange) :
    (s.dispatchAll log).current = s.current.settled log := by
  -- By the last change, which acts on what the changes before have come to.
  induction log using List.reverseRecOn with
  | nil => rfl
  | append_singleton log c ih =>
    rw [dispatchAll_append, Snapshot.settled_append, ← ih]
    rfl

/-- Two changes to different parts may be made in either order. -/
theorem dispatchAll_swap (s : Store) {first second : Snapshot.DatedChange}
    (apart : first.change.part ≠ second.change.part) (rest : List Snapshot.DatedChange) :
    s.dispatchAll (first :: second :: rest) = s.dispatchAll (second :: first :: rest) := by
  -- Both orders count two changes, and come to the same snapshot.
  have same := s.current.apply_comm first.time second.time apart
  simp only [dispatchAll, List.foldl_cons, dispatch, same]

/-- Whatever was shared at first, after any row of changes each part of it is what the last change
to that part made of it: the lessons with the order of their ids, the examples, the model and the
result that were brought last, the mode turned over as often as it was toggled, and the newest of
all results that were ever reached, with the time of each, in front of the history from before.  So
a history that was not too long at first never is, and changes to different parts that follow each
other may be made in either order. -/
theorem current_is_settled (s : Store) (log : List Snapshot.DatedChange) :
    (s.dispatchAll log).current = s.current.settled log ∧
    (s.current.history.length ≤ Snapshot.historyLimit →
      (s.dispatchAll log).current.history.length ≤ Snapshot.historyLimit) ∧
    ∀ first second rest, first.change.part ≠ second.change.part →
      s.dispatchAll (log ++ first :: second :: rest) =
        s.dispatchAll (log ++ second :: first :: rest) := by
  -- The closed form is shown by the changes from the last one on; length and order are read off it.
  refine ⟨current_dispatchAll s log, fun short => ?_, fun first second rest apart => ?_⟩
  · rw [current_dispatchAll]
    exact Snapshot.length_history_settled_le short log
  · rw [dispatchAll_append, dispatchAll_append]
    exact dispatchAll_swap _ apart rest

/-- A result is reached, taken away and reached again, and the mode is toggled in between. -/
def facesTwice : List Snapshot.DatedChange := [
  ⟨⟨1⟩, .result (some { expression := "faces" })⟩, ⟨⟨2⟩, .mode⟩, ⟨⟨3⟩, .result none⟩,
  ⟨⟨4⟩, .result (some { expression := "faces" })⟩]

/-- Both times are remembered, the second one in front, and toggling again commutes with a new
model. -/
theorem current_after_faces_twice :
    ({} : Store).current.history.length ≤ Snapshot.historyLimit ∧
    Snapshot.Change.mode.part ≠ (Snapshot.Change.model none).part ∧
    (({} : Store).dispatchAll facesTwice).current =
      { result := some { expression := "faces" },
        history := [⟨⟨4⟩, { expression := "faces" }⟩, ⟨⟨1⟩, { expression := "faces" }⟩],
        mode := .highlightOnly } ∧
    (({} : Store).dispatchAll facesTwice).current.history.length ≤ Snapshot.historyLimit ∧
    ({} : Store).dispatchAll (facesTwice ++ [⟨⟨5⟩, .mode⟩, ⟨⟨6⟩, .model none⟩]) =
      ({} : Store).dispatchAll (facesTwice ++ [⟨⟨6⟩, .model none⟩, ⟨⟨5⟩, .mode⟩]) := by
  -- The closed form is computed, and the rest is what the theorem says of it.
  have short : ({} : Store).current.history.length ≤ Snapshot.historyLimit := by decide
  have apart : Snapshot.Change.mode.part ≠ (Snapshot.Change.model none).part := by decide
  obtain ⟨settled, bounded, swapped⟩ := current_is_settled {} facesTwice
  refine ⟨short, apart, ?_, bounded short, swapped ⟨⟨5⟩, .mode⟩ ⟨⟨6⟩, .model none⟩ [] apart⟩
  rw [settled]
  decide

end Store

end SelectorTutorial
