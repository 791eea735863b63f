import SelectorTutorial.Session.Basic

/-! The errands of the two pages, and all that can happen to the tickets that they run under. -/

namespace SelectorTutorial

namespace Tickets

/-- To issue a ticket makes all others of its lane late. -/
@[simp] theorem issue_snd (t : Tickets) (lane : Lane) : (t.issue lane).2 = t.invalidate lane := rfl

/-- Going on in a lane takes its number up by one. -/
@[simp] theorem reached_invalidate (t : Tickets) (lane : Lane) :
    (t.invalidate lane).reached lane = t.reached lane + 1 := by
  -- Each lane has a number of its own.
  cases lane <;> rfl

/-- Going on in a lane leaves the other lanes alone. -/
theorem reached_invalidate_of_ne (t : Tickets) {lane other : Lane} (different : lane ≠ other) :
    (t.invalidate lane).reached other = t.reached other := by
  -- Each lane has a number of its own.
  cases lane <;> cases other <;> first | rfl | exact absurd rfl different

/-- A ticket counts exactly as long as its number is the one reached. -/
theorem isCurrent_iff (t : Tickets) (ticket : Ticket) :
    t.isCurrent ticket = true ↔ t.reached ticket.lane = ticket.number := by
  -- The definition compares the two numbers.
  simp [isCurrent]

/-- A ticket counts when it has just been issued. -/
theorem isCurrent_issue (t : Tickets) (lane : Lane) :
    (t.invalidate lane).isCurrent (t.issue lane).1 = true := by
  -- The ticket is issued with the number that the lane goes on to.
  rw [isCurrent_iff]
  rfl

end Tickets

/-- The two pages, each of which has tickets of its own. -/
inductive Page where
  /-- The page of a lesson. -/
  | lesson
  /-- The playground. -/
  | playground
deriving DecidableEq, Repr

/-- What a call with a ticket is out to do. -/
inductive Errand where
  /-- The lesson page loads a lesson. -/
  | load
  /-- The lesson page runs a selector. -/
  | lessonRun
  /-- The playground compiles a model. -/
  | compile
  /-- The playground runs a selector. -/
  | playgroundRun
deriving DecidableEq, Repr

namespace Errand

/-- The page that goes on an errand. -/
def page : Errand → Page
  | load => .lesson
  | lessonRun => .lesson
  | compile => .playground
  | playgroundRun => .playground

/-- The lane of an errand, which no other errand of its page has. -/
def lane : Errand → Lane
  | load => .lesson
  | lessonRun => .selection
  | compile => .compile
  | playgroundRun => .selection

/-- The errand of the same page that makes no sense any more once this one was applied. -/
def rival : Errand → Option Errand
  -- What runs against the model of the page loses its sense once that model is replaced.
  | load => some lessonRun
  | compile => some playgroundRun
  | lessonRun => none
  | playgroundRun => none

/-- Page and lane tell one errand from all others. -/
theorem eq_of_page_of_lane {errand other : Errand} (page : errand.page = other.page)
    (lane : errand.lane = other.lane) : errand = other := by
  -- Both pages have a lane for selections, but only one errand each that uses it.
  cases errand <;> cases other <;> first | rfl | contradiction

/-- A rival belongs to the same page. -/
theorem rival_page {errand rival : Errand} (rivals : errand.rival = some rival) :
    rival.page = errand.page := by
  -- Only what swaps a model has a rival, and that is the run of the same page.
  cases errand <;> cases rivals <;> rfl

end Errand

namespace Tickets

/-- The tickets of a page after an errand came to an end that counts. -/
def settle (t : Tickets) (errand : Errand) (outcome : Outcome) : Tickets :=
  -- Nothing but an errand that was applied is in the way of its rival.
  match errand.rival, outcome with
  | some rival, .applied => t.invalidate rival.lane
  | _, _ => t

/-- All that the first step of a call can do to the tickets of its page. -/
inductive Takes (t : Tickets) (page : Page) :
    Tickets → Progress (Option (Errand × Ticket)) (Option Outcome) → Prop
  /-- The call does without a ticket. -/
  | without {progress} (free : ∀ held, progress ≠ .waiting (some held)) : Takes t page t progress
  /-- The call takes a new ticket. -/
  | issues (errand : Errand) (own : errand.page = page) :
      Takes t page (t.invalidate errand.lane) (.waiting (some (errand, (t.issue errand.lane).1)))

/-- All that a later step of a call can do to the tickets of its page and with its own ticket. -/
inductive Handles (t : Tickets) (page : Page) : Option (Errand × Ticket) → Tickets →
    Progress (Option (Errand × Ticket)) (Option Outcome) → Prop
  /-- The call does without a ticket. -/
  | without {progress} (free : ∀ held, progress ≠ .waiting (some held)) :
      Handles t page none t progress
  /-- The call waits on with the ticket that it has. -/
  | keeps {errand : Errand} {ticket} (own : errand.page = page) :
      Handles t page (some (errand, ticket)) t (.waiting (some (errand, ticket)))
  /-- The ticket is late, and the answer is dropped. -/
  | drops {errand : Errand} {ticket} (own : errand.page = page)
      (late : t.isCurrent ticket = false) :
      Handles t page (some (errand, ticket)) t (.finished (some .superseded))
  /-- The ticket counts, and with it what the call came to. -/
  | counts (errand : Errand) (outcome : Outcome) {ticket} (own : errand.page = page)
      (current : t.isCurrent ticket = true) (counted : outcome ≠ .superseded) :
      Handles t page (some (errand, ticket)) (t.settle errand outcome) (.finished (some outcome))

end Tickets

/-- The errand that a call of the lesson page is on, and its ticket. -/
def LessonPage.Waiting.held? : LessonPage.Waiting → Option (Errand × Ticket)
  -- Looking for a way is no errand, because its answer never comes too late.
  | route => none
  -- All requests of a load go out under the same ticket.
  | lesson ticket _ => some (.load, ticket)
  | model ticket _ _ _ => some (.load, ticket)
  | redirect ticket _ _ => some (.load, ticket)
  | selection ticket _ => some (.lessonRun, ticket)

/-- The errands of the lesson page are its own. -/
theorem LessonPage.Waiting.held?_page {on : LessonPage.Waiting} {errand : Errand} {ticket : Ticket}
    (holds : on.held? = some (errand, ticket)) : errand.page = .lesson := by
  -- By what is waited for.
  cases on <;> cases holds <;> rfl

/-- What an errand of the lesson page came to. -/
def LessonPage.Result.outcome? : LessonPage.Result → Option Outcome
  | loaded outcome _ => some outcome
  | done outcome => some outcome
  -- A way that was found and a key without a meaning are no errands.
  | route _ => none
  | unbound => none

/-- The errand that a call of the playground is on, and its ticket. -/
def Playground.Waiting.held? : Playground.Waiting → Option (Errand × Ticket)
  | catalog _ => none
  | compile ticket _ => some (.compile, ticket)
  | selection ticket _ => some (.playgroundRun, ticket)

/-- The errands of the playground are its own. -/
theorem Playground.Waiting.held?_page {on : Playground.Waiting} {errand : Errand} {ticket : Ticket}
    (holds : on.held? = some (errand, ticket)) : errand.page = .playground := by
  -- By what is waited for.
  cases on <;> cases holds <;> rfl

/-- What an errand of the playground came to. -/
def Playground.Result.outcome? : Playground.Result → Option Outcome
  | done outcome => some outcome
  | prepared _ => none

namespace Session

/-- The errand that a call is on, and its ticket. -/
def Waiting.held? : Waiting → Option (Errand × Ticket)
  | lesson on => on.held?
  | playground on => on.held?
  | lessons => none
  | catalog _ => none

/-- What an errand came to. -/
def Result.outcome? : Result → Option Outcome
  | lesson result => result.outcome?
  | playground result => result.outcome?
  | lessons _ => none
  | catalog _ => none

/-- The tickets of a page. -/
def tickets (s : Session) : Page → Tickets
  | .lesson => s.lesson.tickets
  | .playground => s.playground.tickets

/-- The number reached in the lane of an errand. -/
def reached (s : Session) (errand : Errand) : UInt64 :=
  (s.tickets errand.page).reached errand.lane

end Session

end SelectorTutorial
