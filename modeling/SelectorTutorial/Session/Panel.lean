/-! What a panel of a page shows of the work behind it, and what that work comes to. -/

namespace SelectorTutorial

/-- Whether a panel waits for something, and what went wrong last. -/
structure Panel where
  /-- Whether it waits. -/
  isLoading : Bool := false
  /-- What went wrong. -/
  error : Option String := none
deriving DecidableEq, Repr

namespace Panel

/-- A panel that begins to wait forgets what went wrong before. -/
def begin (_ : Panel) : Panel :=
  { isLoading := true, error := none }

/-- A panel that has got what it waited for. -/
def succeed (p : Panel) : Panel :=
  { p with isLoading := false }

/-- A panel that shows what went wrong. -/
def fail (_ : Panel) (message : String) : Panel :=
  { isLoading := false, error := some message }

end Panel

/-- What a call of a page came to. -/
inductive Outcome where
  /-- It did what it was to do. -/
  | applied
  /-- There was nothing to do, and nothing was sent. -/
  | skipped
  /-- A newer call took its place, and what came back for it was dropped. -/
  | superseded
  /-- It failed, and the user was told why. -/
  | failed (message : String)
deriving DecidableEq, Repr

namespace Outcome

/-- Whether the call did what it was to do. -/
def isApplied : Outcome → Bool
  | applied => true
  | _ => false

/-- What the user was told. -/
def failure : Outcome → Option String
  | failed message => some message
  | _ => none

end Outcome

end SelectorTutorial
