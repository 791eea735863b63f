import SelectorTutorial.Proofs.Session.CurrentResult
import SelectorTutorial.Proofs.Session.Undated

/-! What comes back too late for a call of the playground may say anything. -/

namespace SelectorTutorial

/-- A call of the playground whose ticket is late ends without a look at its answer. -/
theorem Playground.resume_of_late (now : Timestamp) (answers : Answers) {page : Playground}
    (shared : Snapshot) {on : Waiting} {errand : Errand} {ticket : Ticket}
    (holds : on.held? = some (errand, ticket)) (late : page.tickets.isCurrent ticket = false) :
    page.resume now answers shared on =
      ⟨page, shared, .finished (.done .superseded)⟩ := by
  -- The ticket is looked at first.
  cases on with
  | catalog on => cases holds
  | compile | selection =>
    cases holds
    simp [resume, late]

namespace Session

/-- Sessions that differ at most in their times still do so once the same is noted of a call. -/
theorem undated_set_calls {s s' : Session} (alike : s'.undated = s.undated) (number : Nat)
    (on : Option Waiting) :
    { s' with calls := s'.calls.set number on }.undated =
      { s with calls := s.calls.set number on }.undated :=
  -- The calls have no times, so they can be set in either of the two.
  congrArg (fun t : Session => { t with calls := t.calls.set number on }) alike

namespace Stage

/-- A moment repeats a stage, at whatever time, but an answer that the stage drops on the playground
may say something else. -/
def RepeatedBy (g : Stage) (m : Moment) : Prop :=
  m.event = g.event ∨ ∃ errand number answers answers', errand.page = .playground ∧
    g.event = .arrival number answers ∧ g.Ends errand number .superseded ∧
    m.event = .arrival number answers'

/-- Two stages come to the same, but for the times. -/
structure Matches (g g' : Stage) : Prop where
  /-- The sessions after them differ at most in the times of their histories. -/
  after : g'.after.undated = g.after.undated
  /-- They are about the same call, which comes equally far, or ends with the same result. -/
  call : g'.call? = g.call?
  /-- They send the same request. -/
  requests : ∀ number request, g'.Requests number request ↔ g.Requests number request
  /-- They drop the same answers. -/
  superseded : ∀ errand number, g'.Ends errand number .superseded ↔ g.Ends errand number .superseded

/-- Of two answers that arrive for the same call and come to the same, both end the same errand. -/
theorem Ends.of_same {g g' : Stage} {number : Nat} {answers answers' : Answers}
    (arrived : g.event = .arrival number answers) (arrived' : g'.event = .arrival number answers')
    (before : g'.before.undated = g.before.undated) (call : g'.call? = g.call?) {errand : Errand}
    {other : Nat} {outcome : Outcome} (ends : g.Ends errand other outcome) :
    g'.Ends errand other outcome := by
  -- The call waits in both sessions, with the same ticket, and has the same result.
  obtain ⟨_, on, ticket, result, arrived'', waits, holds, taken, came⟩ := ends
  rw [arrived] at arrived''
  cases arrived''
  exact ⟨answers', on, ticket, result, arrived', (waiting?_of_undated before _).trans waits, holds,
    call.trans taken, came⟩

/-- Stages at which answers arrive for the same call match if they come to the same. -/
theorem matches_of_arrivals {g g' : Stage} {number : Nat} {answers answers' : Answers}
    (arrived : g.event = .arrival number answers) (arrived' : g'.event = .arrival number answers')
    (before : g'.before.undated = g.before.undated)
    (after : g'.after.undated = g.after.undated) (call : g'.call? = g.call?) :
    g.Matches g' where
  -- The call that is answered and how far it has come are the same, and all else is told by these.
  after := after
  call := call
  requests _ _ := by simp only [Requests, call]
  superseded _ _ :=
    ⟨Ends.of_same arrived' arrived before.symm call.symm, Ends.of_same arrived arrived' before call⟩

/-- The same event matches itself in sessions that differ at most in their times. -/
theorem matches_of_event {g g' : Stage} (event : g'.event = g.event)
    (before : g'.before.undated = g.before.undated) : g.Matches g' := by
  -- By the event; only for an answer there is something to compare.
  obtain ⟨after, call⟩ := after_of_undated event before
  cases happens : g.event with
  | arrival number answers =>
    exact matches_of_arrivals happens (event.trans happens) before after call
  | call | edit =>
    -- No answer arrives, and so none is dropped.
    refine ⟨after, call, fun _ _ => by simp only [Requests, call], fun _ _ => ?_⟩
    simp [Ends, event, happens]

/-- An answer that is dropped on the playground matches any other answer. -/
theorem matches_of_superseded {g g' : Stage} {errand : Errand} {number : Nat}
    {answers answers' : Answers} (own : errand.page = .playground)
    (arrived : g.event = .arrival number answers) (ends : g.Ends errand number .superseded)
    (arrived' : g'.event = .arrival number answers')
    (before : g'.before.undated = g.before.undated) : g.Matches g' := by
  -- Whatever is told, an answer for a late ticket is not looked at.
  obtain ⟨_, on, ticket, arrived'', waits, holds, late⟩ := ends.late
  rw [arrived] at arrived''
  cases arrived''
  -- What holds a ticket of the playground is one of its calls.
  cases on with
  | lessons | catalog => cases holds
  | lesson on => simp [LessonPage.Waiting.held?_page holds] at own
  | playground on =>
    have page : g'.before.undated.playground = g.before.undated.playground := by rw [before]
    rw [undated_playground, undated_playground] at page
    have waits' := (waiting?_of_undated before number).trans waits
    rw [own] at late
    have dropped (s : Session) (now : Timestamp) (answers : Answers)
        (same : s.playground = g.before.playground) :
        s.goOn now answers (.playground on) = (s, .finished (.playground (.done .superseded))) := by
      simp only [goOn, same, Playground.resume_of_late now answers s.shared holds late]
      rw [← same]
      rfl
    -- Both stages only note that the call has ended.
    obtain ⟨after, taken⟩ := of_arrival arrived waits
    obtain ⟨after', taken'⟩ := of_arrival arrived' waits'
    rw [dropped g.before _ _ rfl] at after taken
    rw [dropped g'.before _ _ page] at after' taken'
    refine matches_of_arrivals arrived arrived' before ?_ (taken'.trans taken.symm)
    rw [after, after']
    exact undated_set_calls before number _

end Stage

/-- What comes back too late on the playground is of no account.  A run is repeated, with the same
calls and edits and with answers in the same order, from the same state or from one that differs
at most in the times of its history; and only such answers may say something else as the first run
drops because a call of the playground was superseded.  Then after each of its events all is as it
was in the first run but for the times: the views and what they share, the requests that are sent,
what each call has come to, and which of them are superseded. -/
theorem late_content_is_of_no_account {s s' : Session} (alike : s'.undated = s.undated)
    {run run' : List Moment} (repeated : List.Forall₂ Stage.RepeatedBy (s.stages run) run') :
    List.Forall₂ Stage.Matches (s.stages run) (s'.stages run') := by
  -- Sessions that are alike stay so, because the content of what is dropped is not looked at.
  induction run generalizing s s' run' with
  | nil =>
    cases repeated
    exact .nil
  | cons m run ih =>
    cases repeated with
    | @cons _ m' _ rest here later =>
      have same : (s.stage m).Matches (s'.stage m') := by
        rcases here with event | ⟨errand, number, answers, answers', own, arrived, ends, arrived'⟩
        · exact Stage.matches_of_event event alike
        · exact Stage.matches_of_superseded own arrived ends arrived' alike
      exact .cons same (ih same.after later)

/-- Something is compiled on the playground, and something else before there is an answer. -/
def hastyRun : List Moment := [
  ⟨⟨0⟩, .edit (.form fun form => { form with source := "box" })⟩,
  ⟨⟨1⟩, .call (.playground .compile)⟩,
  ⟨⟨2⟩, .edit (.form fun form => { form with source := "ball" })⟩,
  ⟨⟨3⟩, .call (.playground .compile)⟩, ⟨⟨4⟩, .arrival 0 boxAnswers⟩, ⟨⟨5⟩, .arrival 1 ballAnswers⟩]

/-- The same happens later, and the first thing cannot be compiled. -/
def unluckyRun : List Moment := [
  ⟨⟨10⟩, .edit (.form fun form => { form with source := "box" })⟩,
  ⟨⟨11⟩, .call (.playground .compile)⟩,
  ⟨⟨12⟩, .edit (.form fun form => { form with source := "ball" })⟩,
  ⟨⟨13⟩, .call (.playground .compile)⟩, ⟨⟨14⟩, .arrival 0 (.failure (.unreachable "timeout"))⟩,
  ⟨⟨15⟩, .arrival 1 ballAnswers⟩]

/-- Whether the first thing can be compiled makes no difference once the second one is awaited. -/
theorem unlucky_run_matches_hasty_run :
    List.Forall₂ Stage.RepeatedBy (({} : Session).stages hastyRun) unluckyRun ∧
    List.Forall₂ Stage.Matches (({} : Session).stages hastyRun)
      (({} : Session).stages unluckyRun) := by
  -- The first answer is the only thing that differs, and it is late by then.
  have late : ((({} : Session).after (hastyRun.take 4)).stage
      ⟨⟨4⟩, .arrival 0 boxAnswers⟩).Ends .compile 0 .superseded :=
    ⟨_, _, _, _, rfl, rfl, rfl, rfl, rfl⟩
  have repeated : List.Forall₂ Stage.RepeatedBy (({} : Session).stages hastyRun) unluckyRun :=
    .cons (.inl rfl) <| .cons (.inl rfl) <| .cons (.inl rfl) <| .cons (.inl rfl) <|
      .cons (.inr ⟨.compile, 0, _, _, rfl, rfl, late, rfl⟩) <| .cons (.inl rfl) .nil
  exact ⟨repeated, late_content_is_of_no_account rfl repeated⟩

end Session

end SelectorTutorial
