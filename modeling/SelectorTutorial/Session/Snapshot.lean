import SelectorTutorial.DisplayMode
import SelectorTutorial.Lesson
import SelectorTutorial.Model
import SelectorTutorial.Selection.Result
import SelectorTutorial.Session.Timestamp

/-! What all pages share, and the changes that can be made to it. -/

namespace SelectorTutorial

/-- A result that was reached at some time. -/
structure HistoryEntry where
  /-- When it was reached. -/
  time : Timestamp
  /-- What was reached. -/
  result : Selection.Result
deriving DecidableEq, Repr

namespace HistoryEntry

/-- The selector of an entry, or a text to stand in for one that is empty. -/
def expressionOr (e : HistoryEntry) (editor : String) : String :=
  if e.result.expression = "" then editor else e.result.expression

/-- The time of day of an entry and how much was reached. -/
def summary (e : HistoryEntry) : String :=
  e.time.timeOfDay ++ "  " ++ e.result.counts.compact

end HistoryEntry

/-- What all pages share, as it is at one moment. -/
structure Snapshot where
  /-- The lessons in the order in which they are taught. -/
  lessons : List Lesson := []
  /-- The ids of the lessons in that order. -/
  order : List Lesson.Id := []
  /-- The examples. -/
  examples : List Example := []
  /-- The model that was compiled last. -/
  model : Option Model := none
  /-- The result shown. -/
  result : Option Selection.Result := none
  /-- The results reached so far, the newest first. -/
  history : List HistoryEntry := []
  /-- What the viewport draws. -/
  mode : DisplayMode := .showBase
deriving DecidableEq, Repr

namespace Snapshot

/-- How many results are remembered. -/
def historyLimit : Nat := 10

/-- The first place of a lesson in the order. -/
def lessonIndex (s : Snapshot) (id : Lesson.Id) : Option Nat :=
  s.order.findIdx? (· == id)

/-- The first lesson with an id. -/
def lesson? (s : Snapshot) (id : Lesson.Id) : Option Lesson :=
  s.lessons.find? (·.id == id)

/-- The lesson that comes first. -/
def firstLesson (s : Snapshot) : Option Lesson.Id :=
  s.order.head?

/-- A change to what the pages share. -/
inductive Change where
  /-- The lessons were fetched. -/
  | lessons (lessons : List Lesson)
  /-- The examples were fetched. -/
  | examples (examples : List Example)
  /-- A model was compiled, or there is none any more. -/
  | model (model : Option Model)
  /-- A result was reached, or there is none any more. -/
  | result (result : Option Selection.Result)
  /-- The viewport draws the other way. -/
  | mode
deriving DecidableEq, Repr

/-- A snapshot that is drawn the other way. -/
def toggleMode (s : Snapshot) : Snapshot :=
  { s with mode := s.mode.toggled }

/-- A snapshot after one change.  A result that was reached is remembered, even after it is gone. -/
def apply (now : Timestamp) (s : Snapshot) : Change → Snapshot
  | .lessons lessons => { s with lessons, order := lessons.map (·.id) }
  | .examples examples => { s with examples }
  | .model model => { s with model }
  | .result none => { s with result := none }
  | .result (some result) =>
    { s with
      result := some result
      history := ⟨now, result⟩ :: s.history.take (historyLimit - 1) }
  | .mode => s.toggleMode

end Snapshot

end SelectorTutorial
