import SelectorTutorial.Proofs.Session.Stage

/-! A ticket counts until its errand is overtaken. -/

namespace SelectorTutorial

namespace Tickets

/-- An errand that was applied makes those of its rival late, and no others. -/
theorem reached_settle (t : Tickets) {errand other : Errand} (own : other.page = errand.page)
    (outcome : Outcome) :
    (t.settle errand outcome).reached other.lane =
      if errand.rival = some other ∧ outcome = .applied then t.reached other.lane + 1
      else t.reached other.lane := by
  -- The lane of a rival is that of no other errand of the page.
  cases rivals : errand.rival with
  | none => simp [settle, rivals]
  | some rival =>
    cases outcome with
    | applied =>
      simp only [settle, rivals, Option.some.injEq, and_true]
      by_cases same : rival = other
      · simp [same]
      · rw [if_neg same]
        refine reached_invalidate_of_ne t fun lane => same ?_
        exact Errand.eq_of_page_of_lane ((Errand.rival_page rivals).trans own.symm) lane
    | skipped | superseded | failed message => simp [settle, rivals]

end Tickets

namespace Session

namespace Stage

/-- Fetching the lists changes no tickets. -/
theorem FetchesLists.tickets {g : Stage} (fetches : g.FetchesLists) (page : Page) :
    g.after.tickets page = g.before.tickets page := by
  -- Neither page changes.
  cases page with
  | lesson => exact congrArg LessonPage.tickets fetches.lesson
  | playground => exact congrArg Playground.tickets fetches.playground

/-- A step of the lesson page leaves the tickets of the playground alone. -/
theorem TakesLesson.tickets_of_ne {g : Stage} {number : Nat} {step : LessonPage.Step}
    (takes : g.TakesLesson number step) {other : Page} (different : other ≠ .lesson) :
    g.after.tickets other = g.before.tickets other := by
  -- The other page does not change.
  cases other with
  | lesson => exact absurd rfl different
  | playground => exact congrArg Playground.tickets takes.playground

/-- A step of the playground leaves the tickets of the lesson page alone. -/
theorem TakesPlayground.tickets_of_ne {g : Stage} {number : Nat} {step : Playground.Step}
    (takes : g.TakesPlayground number step) {other : Page} (different : other ≠ .playground) :
    g.after.tickets other = g.before.tickets other := by
  -- The other page does not change.
  cases other with
  | lesson => exact congrArg LessonPage.tickets takes.lesson
  | playground => exact absurd rfl different

/-- A step of a call that has no ticket waits on without one, or ends. -/
theorem free_of_ticketless {progress : Progress Waiting Result}
    (ticketless : ∀ on, progress = .waiting on → on.held? = none) (held : Errand × Ticket) :
    progress.map Waiting.held? Result.outcome? ≠ .waiting (some held) := by
  -- What has ended does not wait, and what waits has no ticket.
  cases progress with
  | finished result => simp [Progress.map]
  | waiting on => simp [Progress.map, ticketless on rfl]

/-- The first step of a call changes the tickets of at most one page, by taking a new one. -/
theorem takes_of_call {g : Stage} {call : Call} (called : g.event = .call call) :
    ∃ page progress, g.call? = some (g.before.calls.length, progress) ∧
      (g.before.tickets page).Takes page (g.after.tickets page)
        (progress.map Waiting.held? Result.outcome?) ∧
      ∀ other, other ≠ page → g.after.tickets other = g.before.tickets other := by
  -- The page is the one that the call is made on; for the lists either page will do.
  have taken := (of_call called).2
  cases g.course with
  | lists fetches =>
    refine ⟨.lesson, _, taken, ?_, fun other _ => fetches.tickets other⟩
    rw [fetches.tickets]
    exact .without (free_of_ticketless (fetches.ticketless _ _ taken).1)
  | lessonBegins _ begins takes =>
    refine ⟨.lesson, _, takes.taken, ?_, fun other => takes.tickets_of_ne⟩
    rw [Progress.map_map]
    simp only [tickets, takes.lesson]
    exact begins.takes
  | playgroundBegins _ begins takes =>
    refine ⟨.playground, _, takes.taken, ?_, fun other => takes.tickets_of_ne⟩
    rw [Progress.map_map]
    simp only [tickets, takes.playground]
    exact begins.takes
  | edits other | lessonGoesOn other | playgroundGoesOn other => simp [called] at other

/-- A later step of a call for the lists has no ticket to handle. -/
theorem FetchesLists.handles {g : Stage} {number : Nat} {answers : Answers} {on : Waiting}
    (fetches : g.FetchesLists) (arrived : g.event = .arrival number answers)
    (waits : g.before.waiting? number = some on) :
    ∃ page progress, g.call? = some (number, progress) ∧
      (g.before.tickets page).Handles page on.held? (g.after.tickets page)
        (progress.map Waiting.held? Result.outcome?) ∧
      ∀ other, other ≠ page → g.after.tickets other = g.before.tickets other := by
  have taken := (of_arrival arrived waits).2
  obtain ⟨free, unheld⟩ := fetches.ticketless _ _ taken
  -- Either page will do, because neither page has a part in it.
  refine ⟨.lesson, _, taken, ?_, fun other _ => fetches.tickets other⟩
  rw [fetches.tickets, unheld on waits]
  exact .without (free_of_ticketless free)

/-- A later step of a call changes the tickets of at most one page, as its own ticket allows. -/
theorem handles_of_arrival {g : Stage} {number : Nat} {answers : Answers} {on : Waiting}
    (arrived : g.event = .arrival number answers) (waits : g.before.waiting? number = some on) :
    ∃ page progress, g.call? = some (number, progress) ∧
      (g.before.tickets page).Handles page on.held? (g.after.tickets page)
        (progress.map Waiting.held? Result.outcome?) ∧
      ∀ other, other ≠ page → g.after.tickets other = g.before.tickets other := by
  -- The page is the one whose call is answered.
  cases on with
  | lessons => exact (fetchesLists_of_lessons arrived waits).handles arrived waits
  | catalog on => exact (fetchesLists_of_catalog arrived waits).handles arrived waits
  | lesson on =>
    obtain ⟨step, goesOn, takes⟩ := goesOn_of_lesson arrived waits
    refine ⟨.lesson, _, takes.taken, ?_, fun other => takes.tickets_of_ne⟩
    rw [Progress.map_map]
    simp only [tickets, takes.lesson]
    exact goesOn.handles
  | playground on =>
    obtain ⟨step, goesOn, takes⟩ := goesOn_of_playground arrived waits
    refine ⟨.playground, _, takes.taken, ?_, fun other => takes.tickets_of_ne⟩
    rw [Progress.map_map]
    simp only [tickets, takes.playground]
    exact goesOn.handles

/-- Only the first step of a call starts an errand. -/
theorem not_starts_of_arrival {g : Stage} {errand : Errand} {number taken : Nat}
    {answers : Answers} (arrived : g.event = .arrival taken answers) :
    ¬ g.Starts errand number := by
  -- An errand starts where a call is made.
  intro starts
  obtain ⟨call, on, ticket, called, -⟩ := starts
  simp [called] at arrived

/-- No edit starts an errand. -/
theorem not_starts_of_edit {g : Stage} {errand : Errand} {number : Nat} {edit : Edit}
    (edited : g.event = .edit edit) : ¬ g.Starts errand number := by
  -- An errand starts where a call is made.
  intro starts
  obtain ⟨call, on, ticket, called, -⟩ := starts
  simp [called] at edited

/-- Only a later step of a call ends an errand. -/
theorem not_ends_of_call {g : Stage} {errand : Errand} {number : Nat} {outcome : Outcome}
    {call : Call} (called : g.event = .call call) : ¬ g.Ends errand number outcome := by
  -- An errand ends where an answer arrives.
  intro ends
  obtain ⟨answers, on, ticket, result, arrived, -⟩ := ends
  simp [called] at arrived

/-- No edit ends an errand. -/
theorem not_ends_of_edit {g : Stage} {errand : Errand} {number : Nat} {outcome : Outcome}
    {edit : Edit} (edited : g.event = .edit edit) : ¬ g.Ends errand number outcome := by
  -- An errand ends where an answer arrives.
  intro ends
  obtain ⟨answers, on, ticket, result, arrived, -⟩ := ends
  simp [edited] at arrived

/-- What ends at an answer is the errand of the call that is answered. -/
theorem Ends.of_arrival {g : Stage} {errand : Errand} {number taken : Nat} {outcome : Outcome}
    {answers : Answers} {on : Waiting} (ends : g.Ends errand number outcome)
    (arrived : g.event = .arrival taken answers) (waits : g.before.waiting? taken = some on) :
    (∃ ticket, on.held? = some (errand, ticket)) ∧
      ∃ result, g.call? = some (taken, .finished result) ∧ result.outcome? = some outcome := by
  -- An arrival answers one call, and that call waits for one thing.
  obtain ⟨_, _, ticket, result, arrived', waits', holds, finished, came⟩ := ends
  rw [arrived] at arrived'
  cases arrived'
  rw [waits] at waits'
  cases waits'
  exact ⟨⟨ticket, holds⟩, result, finished, came⟩

/-- What ends at an answer is the errand for which the ticket of the call was issued. -/
theorem Ends.errand_eq {g : Stage} {errand mine : Errand} {number taken : Nat} {outcome : Outcome}
    {answers : Answers} {on : Waiting} {ticket : Ticket} (ends : g.Ends errand number outcome)
    (arrived : g.event = .arrival taken answers) (waits : g.before.waiting? taken = some on)
    (holds : on.held? = some (mine, ticket)) : mine = errand := by
  -- The call that is answered holds one ticket.
  obtain ⟨⟨_, same⟩, -⟩ := ends.of_arrival arrived waits
  rw [holds, Option.some.injEq, Prod.mk.injEq] at same
  exact same.1

/-- An errand that ends with a step of the lesson page was that of the call that took it. -/
theorem TakesLesson.ends {g : Stage} {number other : Nat} {answers : Answers}
    {on : LessonPage.Waiting} {step : LessonPage.Step} {errand : Errand} {outcome : Outcome}
    (takes : g.TakesLesson number step) (arrived : g.event = .arrival number answers)
    (waits : g.before.waiting? number = some (.lesson on)) (ends : g.Ends errand other outcome) :
    (∃ ticket, on.held? = some (errand, ticket)) ∧
      ∃ result, step.progress = .finished result ∧ result.outcome? = some outcome := by
  -- The result of the call is that of its step on the page.
  obtain ⟨held, result, finished, came⟩ := ends.of_arrival arrived waits
  rw [takes.taken, Option.some.injEq, Prod.mk.injEq] at finished
  obtain ⟨mine, ended, rfl⟩ := Progress.map_eq_finished.1 finished.2
  exact ⟨held, mine, ended, came⟩

/-- An errand that ends with a step of the playground was that of the call that took it. -/
theorem TakesPlayground.ends {g : Stage} {number other : Nat} {answers : Answers}
    {on : Playground.Waiting} {step : Playground.Step} {errand : Errand} {outcome : Outcome}
    (takes : g.TakesPlayground number step) (arrived : g.event = .arrival number answers)
    (waits : g.before.waiting? number = some (.playground on))
    (ends : g.Ends errand other outcome) :
    (∃ ticket, on.held? = some (errand, ticket)) ∧
      ∃ result, step.progress = .finished result ∧ result.outcome? = some outcome := by
  -- The result of the call is that of its step on the page.
  obtain ⟨held, result, finished, came⟩ := ends.of_arrival arrived waits
  rw [takes.taken, Option.some.injEq, Prod.mk.injEq] at finished
  obtain ⟨mine, ended, rfl⟩ := Progress.map_eq_finished.1 finished.2
  exact ⟨held, mine, ended, came⟩

/-- One answer has one outcome. -/
theorem Ends.outcome_eq {g : Stage} {errand errand' : Errand} {number number' : Nat}
    {outcome outcome' : Outcome} (ends : g.Ends errand number outcome)
    (ends' : g.Ends errand' number' outcome') : outcome = outcome' := by
  -- Both are the outcome of the one result that the stage leaves.
  obtain ⟨answers, on, _, _, arrived, waits, -⟩ := id ends
  obtain ⟨-, result, taken, came⟩ := ends.of_arrival arrived waits
  obtain ⟨-, result', taken', came'⟩ := ends'.of_arrival arrived waits
  rw [taken] at taken'
  cases taken'
  exact Option.some.inj (came.symm.trans came')

/-- Nothing ends at an answer that nothing waits for. -/
theorem not_ends_of_stray {g : Stage} {errand : Errand} {number taken : Nat} {outcome : Outcome}
    {answers : Answers} (arrived : g.event = .arrival taken answers)
    (stray : g.before.waiting? taken = none) : ¬ g.Ends errand number outcome := by
  -- What ends was waiting.
  intro ends
  obtain ⟨_, on, _, _, arrived', waits, -⟩ := ends
  rw [arrived] at arrived'
  cases arrived'
  simp [stray] at waits

/-- A stage overtakes an errand by starting another one, applying its rival or letting it go. -/
theorem overtakes_iff (g : Stage) (errand : Errand) :
    g.Overtakes errand ↔ (∃ number, g.Starts errand number) ∨
      (∃ winner number, winner.rival = some errand ∧ g.Ends winner number .applied) ∨
      (errand = .playgroundRun ∧ g.event = .edit .clearSelection) := by
  -- Both sides name the same causes, on the right in one way for all errands.
  cases errand with
  | load | compile =>
    constructor
    · intro overtakes
      exact .inl overtakes
    · intro cause
      rcases cause with starts | ⟨winner, number, rivals, -⟩ | ⟨⟨⟩, -⟩
      · exact starts
      · -- These errands have no rival.
        cases winner <;> cases rivals
  | lessonRun =>
    constructor
    · intro overtakes
      rcases overtakes with starts | ⟨number, ends⟩
      · exact .inl starts
      · exact .inr (.inl ⟨.load, number, rfl, ends⟩)
    · intro cause
      rcases cause with starts | ⟨winner, number, rivals, ends⟩ | ⟨⟨⟩, -⟩
      · exact .inl starts
      · cases winner <;> cases rivals
        exact .inr ⟨number, ends⟩
  | playgroundRun =>
    constructor
    · intro overtakes
      rcases overtakes with starts | ⟨number, ends⟩ | cleared
      · exact .inl starts
      · exact .inr (.inl ⟨.compile, number, rfl, ends⟩)
      · exact .inr (.inr ⟨rfl, cleared⟩)
    · intro cause
      rcases cause with starts | ⟨winner, number, rivals, ends⟩ | ⟨-, cleared⟩
      · exact .inl starts
      · cases winner <;> cases rivals
        exact .inr (.inl ⟨number, ends⟩)
      · exact .inr (.inr cleared)

/-- The number reached in a lane depends on the tickets of its page alone. -/
theorem reached_eq {s t : Session} {errand : Errand}
    (same : t.tickets errand.page = s.tickets errand.page) :
    t.reached errand = s.reached errand := by
  -- The number is looked up in them.
  simp only [reached, same]

/-- A first step takes up the number of the lane in which it starts an errand, and no other. -/
theorem reached_after_call {g : Stage} {call : Call} (called : g.event = .call call)
    (errand : Errand) :
    ((∃ number, g.Starts errand number) ∧ g.after.reached errand = g.before.reached errand + 1) ∨
      ((∀ number, ¬ g.Starts errand number) ∧
        g.after.reached errand = g.before.reached errand) := by
  -- By what becomes of the tickets of the page that is called.
  obtain ⟨page, progress, taken, takes, others⟩ := takes_of_call called
  generalize told : progress.map Waiting.held? Result.outcome? = held at takes
  generalize after : g.after.tickets page = t at takes
  -- What the call waits for tells the errand that it starts.
  have started {number : Nat} (starts : g.Starts errand number) :
      ∃ ticket, held = .waiting (some (errand, ticket)) := by
    obtain ⟨_, on, ticket, _, taken', holds⟩ := starts
    rw [taken] at taken'
    cases taken'
    exact ⟨ticket, by rw [← told]; simp [Progress.map, holds]⟩
  cases takes with
  | without free =>
    refine .inr ⟨fun number starts => ?_, reached_eq ?_⟩
    · obtain ⟨ticket, waits⟩ := started starts
      exact free _ waits
    · by_cases own : errand.page = page
      · rw [own, after]
      · exact others _ own
  | issues fresh own =>
    -- The ticket is one of this very errand, or else of another lane or another page.
    by_cases same : fresh = errand
    · subst same
      cases progress with
      | finished result => simp [Progress.map] at told
      | waiting on =>
        simp only [Progress.map, Progress.waiting.injEq] at told
        refine .inl ⟨⟨_, call, on, _, called, taken, told⟩, ?_⟩
        simp [reached, own, after]
    · refine .inr ⟨fun number starts => ?_, ?_⟩
      · obtain ⟨ticket, waits⟩ := started starts
        simp only [Progress.waiting.injEq, Option.some.injEq, Prod.mk.injEq] at waits
        exact same waits.1
      · by_cases mine : errand.page = page
        · simp only [reached, mine, after]
          refine Tickets.reached_invalidate_of_ne _ fun lane => same ?_
          exact Errand.eq_of_page_of_lane (own.trans mine.symm) lane
        · exact reached_eq (others _ mine)

/-- A later step takes up the number of the lane whose rival it applies, and no other. -/
theorem reached_after_arrival {g : Stage} {number : Nat} {answers : Answers} {on : Waiting}
    (arrived : g.event = .arrival number answers) (waits : g.before.waiting? number = some on)
    (errand : Errand) :
    ((∃ winner number, winner.rival = some errand ∧ g.Ends winner number .applied) ∧
        g.after.reached errand = g.before.reached errand + 1) ∨
      ((∀ winner number, winner.rival = some errand → ¬ g.Ends winner number .applied) ∧
        g.after.reached errand = g.before.reached errand) := by
  -- By what becomes of the tickets of the page that is answered.
  obtain ⟨page, progress, taken, handles, others⟩ := handles_of_arrival arrived waits
  generalize told : progress.map Waiting.held? Result.outcome? = held at handles
  generalize after : g.after.tickets page = t at handles
  generalize holds : on.held? = before at handles
  -- What the call waited for tells the errand that it ends, and its result what that came to.
  have ended {winner : Errand} {number' : Nat} (ends : g.Ends winner number' .applied) :
      (∃ ticket, before = some (winner, ticket)) ∧ held = .finished (some .applied) := by
    obtain ⟨⟨ticket, holds'⟩, result, taken', came⟩ := ends.of_arrival arrived waits
    rw [taken] at taken'
    cases taken'
    exact ⟨⟨ticket, by rw [← holds, holds']⟩, by rw [← told]; simp [Progress.map, came]⟩
  have unchanged (same : t = g.before.tickets page) :
      g.after.reached errand = g.before.reached errand := by
    by_cases own : errand.page = page
    · exact reached_eq (by rw [own, after, same])
    · exact reached_eq (others _ own)
  cases handles with
  | without =>
    refine .inr ⟨fun winner number _ ends => ?_, unchanged rfl⟩
    simpa using (ended ends).1
  | keeps | drops =>
    refine .inr ⟨fun winner number _ ends => ?_, unchanged rfl⟩
    simpa using (ended ends).2
  | counts mine outcome own current counted =>
    -- What counts either is the rival that is applied, or leaves the lane alone.
    by_cases applies : mine.rival = some errand ∧ outcome = .applied
    · obtain ⟨rivals, rfl⟩ := applies
      have page' : errand.page = page := (Errand.rival_page rivals).trans own
      cases progress with
      | waiting next => simp [Progress.map] at told
      | finished result =>
        simp only [Progress.map, Progress.finished.injEq] at told
        refine .inl ⟨⟨mine, number, rivals, answers, on, _, result, arrived, waits, holds, taken,
          told⟩, ?_⟩
        rw [reached, page', after, Tickets.reached_settle _ (page'.trans own.symm)]
        simp [rivals, reached, page']
    · refine .inr ⟨fun winner number rivals ends => applies ?_, ?_⟩
      · obtain ⟨⟨ticket, same⟩, came⟩ := ended ends
        cases same
        cases came
        exact ⟨rivals, rfl⟩
      · by_cases page' : errand.page = page
        · rw [reached, page', after, Tickets.reached_settle _ (page'.trans own.symm),
            if_neg applies, reached, page']
        · exact reached_eq (others _ page')

/-- Letting a selection go takes up the number of its lane, and no other edit does such a thing. -/
theorem reached_edit (now : Timestamp) (s : Session) (edit : Edit) (errand : Errand) :
    ((errand = .playgroundRun ∧ edit = .clearSelection) ∧
        (s.edit now edit).reached errand = s.reached errand + 1) ∨
      (¬ (errand = .playgroundRun ∧ edit = .clearSelection) ∧
        (s.edit now edit).reached errand = s.reached errand) := by
  -- No edit of the lesson page and no change to what is shared touches a ticket.
  cases edit with
  | clearSelection =>
    cases errand with
    | playgroundRun => exact .inl ⟨⟨rfl, rfl⟩, rfl⟩
    | load | lessonRun | compile => exact .inr ⟨by simp, rfl⟩
  | resetSelection =>
    refine .inr ⟨by simp, ?_⟩
    cases errand <;> simp [Session.edit, reached, tickets, Errand.page]
  | setSelection | toggleSolution | form | share =>
    refine .inr ⟨by simp, ?_⟩
    cases errand <;> rfl

/-- A stage that overtakes an errand takes the number of its lane up by one, and no other does. -/
theorem reached_after (g : Stage) (errand : Errand) :
    (g.Overtakes errand ∧ g.after.reached errand = g.before.reached errand + 1) ∨
      (¬ g.Overtakes errand ∧ g.after.reached errand = g.before.reached errand) := by
  rw [overtakes_iff]
  -- Each kind of event can overtake in one way only.
  cases event : g.event with
  | call call =>
    rcases reached_after_call event errand with ⟨starts, up⟩ | ⟨idle, same⟩
    · exact .inl ⟨.inl starts, up⟩
    · refine .inr ⟨fun cause => ?_, same⟩
      rcases cause with ⟨number, starts⟩ | ⟨winner, number, -, ends⟩ | ⟨-, ⟨⟩⟩
      · exact idle number starts
      · exact not_ends_of_call event ends
  | edit edit =>
    have after := (of_edit event).1
    rcases reached_edit g.time g.before edit errand with ⟨clears, up⟩ | ⟨keeps, same⟩
    · exact .inl ⟨.inr (.inr ⟨clears.1, by rw [clears.2]⟩), by rw [after, up]⟩
    · refine .inr ⟨fun cause => ?_, by rw [after, same]⟩
      rcases cause with ⟨number, starts⟩ | ⟨winner, number, -, ends⟩ | ⟨mine, cleared⟩
      · exact not_starts_of_edit event starts
      · exact not_ends_of_edit event ends
      · cases cleared
        exact keeps ⟨mine, rfl⟩
  | arrival number answers =>
    cases waits : g.before.waiting? number with
    | none =>
      refine .inr ⟨fun cause => ?_, by rw [(of_stray event waits).1]⟩
      rcases cause with ⟨number, starts⟩ | ⟨winner, number', -, ends⟩ | ⟨-, ⟨⟩⟩
      · exact not_starts_of_arrival event starts
      · exact not_ends_of_stray event waits ends
    | some on =>
      rcases reached_after_arrival event waits errand with ⟨ends, up⟩ | ⟨idle, same⟩
      · exact .inl ⟨.inr (.inl ends), up⟩
      · refine .inr ⟨fun cause => ?_, same⟩
        rcases cause with ⟨number, starts⟩ | ⟨winner, number, rivals, ends⟩ | ⟨-, ⟨⟩⟩
        · exact not_starts_of_arrival event starts
        · exact idle winner number rivals ends

/-- Where the number of its lane stays the same, an errand is not overtaken. -/
theorem not_overtakes_of_reached {g : Stage} {errand : Errand}
    (same : g.after.reached errand = g.before.reached errand) : ¬ g.Overtakes errand := by
  -- Whatever overtakes an errand takes the number up by one.
  rcases g.reached_after errand with ⟨-, up⟩ | ⟨idle, -⟩
  · rw [same] at up
    simp at up
  · exact idle

end Stage

end Session

end SelectorTutorial
