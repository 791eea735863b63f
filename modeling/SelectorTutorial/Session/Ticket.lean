/-! Numbered tickets, by which a page tells a reply that still counts from one that came too
late. -/

namespace SelectorTutorial

/-- The lanes of a page, in each of which only the latest call counts. -/
inductive Lane where
  | lesson
  | compile
  | selection
deriving DecidableEq, Repr

/-- The word for a lane. -/
def Lane.name : Lane → String
  | lesson => "lesson"
  | compile => "compile"
  | selection => "selection"

/-- What a call holds while it waits for its reply. -/
structure Ticket where
  /-- The lane that the call runs in. -/
  lane : Lane
  /-- The number of the ticket in that lane. -/
  number : UInt64
deriving DecidableEq, Repr

/-- The number reached in each lane. -/
structure Tickets where
  /-- The number reached by lessons. -/
  lesson : UInt64 := 0
  /-- The number reached by compiled models. -/
  compile : UInt64 := 0
  /-- The number reached by selections. -/
  selection : UInt64 := 0
deriving DecidableEq, Repr

namespace Tickets

/-- The number reached in a lane. -/
def reached (t : Tickets) : Lane → UInt64
  | .lesson => t.lesson
  | .compile => t.compile
  | .selection => t.selection

/-- Going on to the next number of a lane makes every ticket of that lane late. -/
def invalidate (t : Tickets) : Lane → Tickets
  | .lesson => { t with lesson := t.lesson + 1 }
  | .compile => { t with compile := t.compile + 1 }
  | .selection => { t with selection := t.selection + 1 }

/-- A new ticket has the next number of its lane. -/
def issue (t : Tickets) (lane : Lane) : Ticket × Tickets :=
  let t := t.invalidate lane
  ({ lane, number := t.reached lane }, t)

/-- A ticket counts as long as its number is the one reached in its lane. -/
def isCurrent (t : Tickets) (ticket : Ticket) : Bool :=
  t.reached ticket.lane == ticket.number

end Tickets

end SelectorTutorial
