import SelectorTutorial.Lesson

/-! Walking from lesson to lesson. -/

namespace SelectorTutorial

/-- A way to walk along the lessons. -/
inductive Direction where
  | previous
  | next
deriving DecidableEq, Repr

/--
The lesson beside the first place of another one.  There is none past either end, and none beside a
lesson that has no place.
-/
def Lesson.neighbor (order : List Lesson.Id) (current : Lesson.Id) :
    Direction → Option Lesson.Id
  | .previous =>
    match order.findIdx? (· == current) with
    | some (place + 1) => order[place]?
    | _ => none
  | .next => (order.findIdx? (· == current)).bind fun place => order[place + 1]?

end SelectorTutorial
