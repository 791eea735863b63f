import SelectorTutorial.Session.Snapshot

/-! The current snapshot, and who has not yet seen it. -/

namespace SelectorTutorial

/-- The current snapshot, and for each subscriber how many changes were made when it last looked. -/
structure Store where
  /-- What the pages share now. -/
  current : Snapshot := {}
  /-- How many changes were made so far. -/
  changes : Nat := 0
  /-- How many of them each subscriber has seen. -/
  seen : List Nat := []
deriving DecidableEq, Repr

namespace Store

/-- Every change counts, even one that leaves all as it was. -/
def dispatch (now : Timestamp) (change : Snapshot.Change) (s : Store) : Store :=
  { s with current := s.current.apply now change, changes := s.changes + 1 }

/-- A new subscriber has seen all changes up to now; subscribers are numbered from zero. -/
def subscribe (s : Store) : Nat × Store :=
  (s.seen.length, { s with seen := s.seen ++ [s.changes] })

/-- Whether there was a change since a subscriber last looked, which it does now. -/
def look (subscriber : Nat) (s : Store) : Bool × Store :=
  ((s.seen[subscriber]?).any (· < s.changes), { s with seen := s.seen.set subscriber s.changes })

end Store

end SelectorTutorial
