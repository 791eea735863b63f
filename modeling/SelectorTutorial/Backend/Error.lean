/-! What can go wrong between the client and the backend, and what the user is told about it. -/

namespace SelectorTutorial

/-- Why a call to the backend gave no value. -/
inductive BackendError where
  /-- No reply arrived. -/
  | unreachable (reason : String)
  /-- The backend refused to compile a model. -/
  | compileRejected (detail : Option String)
  /-- The backend refused to run a selector. -/
  | selectionRejected (detail : Option String)
  /-- The backend does not know what was asked for. -/
  | notFound (what : String) (detail : Option String)
  /-- The backend replied with a status that has no meaning of its own here. -/
  | unexpectedStatus (endpoint : String) (status : Nat) (detail : Option String)
  /-- The reply does not hold the value that was asked for. -/
  | undecodable (endpoint : String) (reason : String)
  /-- There is no URL to ask. -/
  | invalidUrl (url : String) (reason : String)
deriving DecidableEq, Repr

namespace BackendError

/-- The text for a detail that may be missing. -/
def detailText (detail : Option String) : String :=
  detail.getD "no detail"

/-- The wording of an error. -/
def message : BackendError → String
  | unreachable reason => "backend unreachable: " ++ reason
  | compileRejected detail => "model compilation failed: " ++ detailText detail
  | selectionRejected detail => "selection failed: " ++ detailText detail
  | notFound what _ => what ++ " not found"
  | unexpectedStatus endpoint status _ => s!"unexpected status {status} from {endpoint}"
  | undecodable endpoint reason => s!"invalid response from {endpoint}: {reason}"
  | invalidUrl url reason => s!"invalid url {url}: {reason}"

/-- What the backend itself said. -/
def detail : BackendError → Option String
  | compileRejected detail => detail
  | selectionRejected detail => detail
  | notFound _ detail => detail
  | unexpectedStatus _ _ detail => detail
  | unreachable _ => none
  | undecodable _ _ => none
  | invalidUrl _ _ => none

/-- Whether the backend does not know what was asked for. -/
def isNotFound : BackendError → Bool
  | notFound _ _ => true
  | _ => false

/-- Whether no reply arrived. -/
def isUnreachable : BackendError → Bool
  | unreachable _ => true
  | _ => false

/-- What the user is told when no reply arrived. -/
def unreachableMessage : String :=
  "Server unreachable; check the API address and retry."

/-- The user reads what the backend said, else that it is unreachable, else the fallback. -/
def userMessage (fallback : String) (e : BackendError) : String :=
  match e.detail with
  | some detail => detail
  | none => if e.isUnreachable then unreachableMessage else fallback

/-- What the user was doing when an error arose. -/
inductive Context where
  | loadLesson
  | compile
  | selection
  | catalog
deriving DecidableEq, Repr

/-- What the user is told when there is nothing better to say. -/
def Context.fallback : Context → String
  | loadLesson => "Could not load lesson."
  | compile => "Failed to compile model."
  | selection => "Failed to run selection."
  | catalog => "Unable to load tutorial content."

/--
The one message shown for an error.  Loading a lesson takes several calls, and of these nothing is
worth telling but that the backend is unreachable.
-/
def shownIn (context : Context) (e : BackendError) : String :=
  if context = .loadLesson ∧ !e.isUnreachable then context.fallback
  else e.userMessage context.fallback

end BackendError

end SelectorTutorial
