/-! How far a call has come that has to wait for the backend. -/

namespace SelectorTutorial

/-- A call waits for a reply, or it has ended. -/
inductive Progress (Waiting Result : Type) where
  /-- It waits. -/
  | waiting (on : Waiting)
  /-- It has ended. -/
  | finished (result : Result)
deriving DecidableEq, Repr

/-- The same progress of a call that is part of another one. -/
def Progress.map {W W' R R' : Type} (onWaiting : W → W') (onResult : R → R') :
    Progress W R → Progress W' R'
  | waiting w => waiting (onWaiting w)
  | finished r => finished (onResult r)

end SelectorTutorial
