import SelectorTutorial.Proofs.Session.Ticket

/-! The ticket that a call holds, from the stage that starts its errand to the one that ends it. -/

namespace SelectorTutorial

namespace Session

/-- The errand that the call with some number is on, and its ticket. -/
def held? (s : Session) (number : Nat) : Option (Errand × Ticket) :=
  (s.waiting? number).bind Waiting.held?

/-- A ticket is held by a call that waits. -/
theorem held?_eq_some_iff {s : Session} {number : Nat} {held : Errand × Ticket} :
    s.held? number = some held ↔ ∃ on, s.waiting? number = some on ∧ on.held? = some held :=
  -- The ticket is looked up in what the call waits for.
  Option.bind_eq_some_iff

namespace Stage

/-- A stage takes a step of the call with some number. -/
def IsAbout (g : Stage) (number : Nat) : Prop :=
  ∃ progress, g.call? = some (number, progress)

/-- A stage sends a request for a call, which from then on waits for the answer. -/
def Requests (g : Stage) (number : Nat) (request : BackendCall) : Prop :=
  ∃ on, g.call? = some (number, .waiting on) ∧ on.call = request

/-- A call waits on while the stages are about others. -/
theorem waiting?_after_of_not_isAbout {g : Stage} {number : Nat} (other : ¬ g.IsAbout number) :
    g.after.waiting? number = g.before.waiting? number := by
  -- Only of the call that a stage is about it is written down anew what it waits for.
  rw [waiting?_after]
  cases taken : g.call? with
  | none => rfl
  | some step =>
    obtain ⟨about, progress⟩ := step
    have different : about ≠ number := by
      intro same
      subst same
      exact other ⟨progress, taken⟩
    simp only [if_neg different]

/-- After its step a call waits exactly for what that step left it waiting for. -/
theorem waiting?_after_of_call? {g : Stage} {number : Nat} {progress : Progress Waiting Result}
    (taken : g.call? = some (number, progress)) : g.after.waiting? number = pending progress := by
  -- The step is stored under the number of the call.
  simp [waiting?_after, taken]

/-- A stage is about a call that it starts, or about one that waits and is answered. -/
theorem IsAbout.started_or_answered {g : Stage} {number : Nat} (about : g.IsAbout number) :
    (∃ call, g.event = .call call ∧ number = g.before.calls.length) ∨
      ∃ answers on, g.event = .arrival number answers ∧ g.before.waiting? number = some on := by
  -- Edits are about no call, and neither are answers that nothing waits for.
  obtain ⟨progress, taken⟩ := about
  cases event : g.event with
  | call call =>
    rw [(of_call event).2] at taken
    cases taken
    exact .inl ⟨call, rfl, rfl⟩
  | edit edit =>
    rw [(of_edit event).2] at taken
    cases taken
  | arrival answered answers =>
    cases waits : g.before.waiting? answered with
    | none =>
      rw [(of_stray event waits).2] at taken
      cases taken
    | some on =>
      rw [(of_arrival event waits).2] at taken
      cases taken
      exact .inr ⟨answers, on, rfl, waits⟩

/-- A call that a stage is about has its place among the calls from then on. -/
theorem IsAbout.lt_length {g : Stage} {number : Nat} (about : g.IsAbout number) :
    number < g.after.calls.length := by
  rcases about.started_or_answered with ⟨call, called, rfl⟩ | ⟨answers, on, -, waits⟩
  · -- The stage itself starts the call.
    simp [(of_call called).1]
  · exact Nat.lt_of_lt_of_le (lt_length_of_waiting waits) g.calls_length_le

/-- A call that was started before takes a step only when it waits and is answered. -/
theorem IsAbout.arrival {g : Stage} {number : Nat} (about : g.IsAbout number)
    (started : number < g.before.calls.length) :
    ∃ answers on, g.event = .arrival number answers ∧ g.before.waiting? number = some on := by
  -- A call that is started has a number that none had before.
  rcases about.started_or_answered with ⟨call, -, rfl⟩ | answered
  · exact absurd started (Nat.lt_irrefl _)
  · exact answered

/-- A call waits for what it waited for before, for what it was started with, or for what comes
after an answer. -/
theorem waits_after {g : Stage} {number : Nat} {on : Waiting}
    (waits : g.after.waiting? number = some on) :
    (g.before.waiting? number = some on ∧ ¬ g.IsAbout number) ∨
      (∃ call, g.event = .call call ∧ number = g.before.calls.length ∧
        g.call? = some (number, .waiting on)) ∨
      (∃ answers old, g.event = .arrival number answers ∧ g.before.waiting? number = some old ∧
        g.call? = some (number, .waiting on)) := by
  -- A stage about the call decides what it waits for, and one about another leaves it be.
  by_cases about : g.IsAbout number
  · obtain ⟨progress, taken⟩ := id about
    rw [waiting?_after_of_call? taken] at waits
    cases progress with
    | finished result => cases waits
    | waiting next =>
      cases waits
      rcases about.started_or_answered with ⟨call, called, same⟩ | ⟨answers, old, arrived, waited⟩
      · exact .inr (.inl ⟨call, called, same, taken⟩)
      · exact .inr (.inr ⟨answers, old, arrived, waited, taken⟩)
  · rw [waiting?_after_of_not_isAbout about] at waits
    exact .inl ⟨waits, about⟩

/-- A call that waits after a stage waited before it, unless it was started there. -/
theorem waits_before {g : Stage} {number : Nat} {on : Waiting}
    (started : number < g.before.calls.length) (waits : g.after.waiting? number = some on) :
    ∃ old, g.before.waiting? number = some old := by
  -- It was waiting all the time, or was started here, or is answered here and goes on.
  rcases waits_after waits with ⟨waits, -⟩ | ⟨_, -, rfl, -⟩ | ⟨_, old, -, waits, -⟩
  · exact ⟨on, waits⟩
  · exact absurd started (Nat.lt_irrefl _)
  · exact ⟨old, waits⟩

/-- An errand starts under the next number, and with the newest ticket of its lane. -/
theorem Starts.held {g : Stage} {errand : Errand} {number : Nat} (starts : g.Starts errand number) :
    number = g.before.calls.length ∧
      g.after.held? number = some (errand, ⟨errand.lane, g.after.reached errand⟩) := by
  -- The ticket was issued here, so its number is the one just reached in its lane.
  obtain ⟨call, on, ticket, called, taken, holds⟩ := starts
  obtain ⟨page, progress, taken', takes, -⟩ := takes_of_call called
  rw [taken] at taken'
  cases taken'
  refine ⟨rfl, held?_eq_some_iff.2 ⟨on, waiting?_after_of_call? taken, ?_⟩⟩
  generalize after : g.after.tickets page = t at takes
  simp only [Progress.map, holds] at takes
  cases takes with
  | without free => exact absurd rfl (free _)
  | issues _ own => simp [holds, reached, own, after, Tickets.issue]

/-- An errand that ends is waited for no more. -/
theorem Ends.gone {g : Stage} {errand : Errand} {number : Nat} {outcome : Outcome}
    (ends : g.Ends errand number outcome) : g.after.waiting? number = none := by
  -- The step that ends it leaves nothing to wait for.
  obtain ⟨answers, on, ticket, result, -, -, -, taken, -⟩ := ends
  exact waiting?_after_of_call? taken

/-- An errand that ends holds its ticket up to then. -/
theorem Ends.held {g : Stage} {errand : Errand} {number : Nat} {outcome : Outcome}
    (ends : g.Ends errand number outcome) :
    ∃ ticket, g.before.held? number = some (errand, ticket) := by
  -- Only a call with a ticket is on an errand.
  obtain ⟨answers, on, ticket, result, -, waits, holds, -, -⟩ := ends
  exact ⟨ticket, held?_eq_some_iff.2 ⟨on, waits, holds⟩⟩

/-- A call holds the same ticket until its errand ends. -/
theorem held?_after {g : Stage} {number : Nat} {errand : Errand} {ticket : Ticket}
    (holds : g.before.held? number = some (errand, ticket)) :
    g.after.held? number = some (errand, ticket) ∨ ∃ outcome, g.Ends errand number outcome := by
  -- Only a step of the call itself can part it from its ticket.
  obtain ⟨on, waits, held⟩ := held?_eq_some_iff.1 holds
  by_cases about : g.IsAbout number
  · obtain ⟨answers, on', arrived, waits'⟩ := about.arrival (lt_length_of_waiting waits)
    rw [waits] at waits'
    cases waits'
    obtain ⟨page, progress, taken, handles, -⟩ := handles_of_arrival arrived waits
    rw [held] at handles
    cases progress with
    | waiting next =>
      -- While the call waits on, its ticket stays the one that it has.
      simp only [Progress.map] at handles
      generalize now : next.held? = after at handles
      generalize g.after.tickets page = t at handles
      cases handles
      exact .inl (held?_eq_some_iff.2 ⟨next, waiting?_after_of_call? taken, now⟩)
    | finished result =>
      simp only [Progress.map] at handles
      generalize came : result.outcome? = outcome at handles
      generalize g.after.tickets page = t at handles
      cases handles <;>
        exact .inr ⟨_, answers, on, ticket, result, arrived, waits, held, taken, came⟩
  · rw [held?, waiting?_after_of_not_isAbout about]
    exact .inl holds

/-- A ticket that a call holds was held before, unless its errand was started there. -/
theorem held?_before {g : Stage} {number : Nat} {errand : Errand} {ticket : Ticket}
    (holds : g.after.held? number = some (errand, ticket)) :
    g.before.held? number = some (errand, ticket) ∨ g.Starts errand number := by
  -- A call gets a ticket with its first step or never.
  obtain ⟨on, waits, held⟩ := held?_eq_some_iff.1 holds
  rcases waits_after waits with ⟨waits, -⟩ | ⟨call, called, rfl, taken⟩ |
    ⟨answers, old, arrived, waits, taken⟩
  · exact .inl (held?_eq_some_iff.2 ⟨on, waits, held⟩)
  · exact .inr ⟨call, on, ticket, called, taken, held⟩
  · obtain ⟨page, progress, taken', handles, -⟩ := handles_of_arrival arrived waits
    rw [taken] at taken'
    cases taken'
    simp only [Progress.map, held] at handles
    generalize before : old.held? = was at handles
    generalize g.after.tickets page = t at handles
    cases handles with
    | without free => exact absurd rfl (free _)
    | keeps => exact .inl (held?_eq_some_iff.2 ⟨old, waits, before⟩)

/-- An answer that is dropped arrives for a ticket that is late. -/
theorem Ends.late {g : Stage} {errand : Errand} {number : Nat}
    (ends : g.Ends errand number .superseded) :
    ∃ answers on ticket, g.event = .arrival number answers ∧
      g.before.waiting? number = some on ∧ on.held? = some (errand, ticket) ∧
      (g.before.tickets errand.page).isCurrent ticket = false := by
  obtain ⟨answers, on, ticket, result, arrived, waits, held, taken, came⟩ := ends
  refine ⟨answers, on, ticket, arrived, waits, held, ?_⟩
  -- What counts never comes to being dropped.
  obtain ⟨page, progress, taken', handles, -⟩ := handles_of_arrival arrived waits
  rw [taken] at taken'
  cases taken'
  generalize g.after.tickets page = t at handles
  simp only [Progress.map, held, came] at handles
  cases handles with
  | drops own late => rw [own]; exact late
  | counts _ _ _ _ counted => exact absurd rfl counted

/-- An answer is dropped exactly if the ticket that it arrives for is late. -/
theorem Ends.superseded_iff {g : Stage} {errand : Errand} {number : Nat} {outcome : Outcome}
    {reached : UInt64} (ends : g.Ends errand number outcome)
    (holds : g.before.held? number = some (errand, ⟨errand.lane, reached⟩)) :
    outcome = .superseded ↔ g.before.reached errand ≠ reached := by
  -- The ticket that is handled at this stage is the one that is held before it.
  obtain ⟨answers, on, ticket, result, arrived, waits, held, taken, came⟩ := ends
  have same : ticket = ⟨errand.lane, reached⟩ := by
    simpa [Session.held?, waits, held] using holds
  subst same
  -- The answer is dropped or counted, and which of both the ticket decides.
  obtain ⟨page, progress, taken', handles, -⟩ := handles_of_arrival arrived waits
  rw [taken] at taken'
  cases taken'
  generalize g.after.tickets page = t at handles
  simp only [Progress.map, held, came] at handles
  cases handles with
  | drops own late => simpa [Session.reached, own, Tickets.isCurrent] using late
  | counts _ _ own current counted =>
    simpa [Session.reached, own, Tickets.isCurrent, counted] using current

end Stage

/-- A call that waits at the end of a run waited all along, if it was started before it. -/
theorem waits_of_after {s : Session} {run : List Moment} {number : Nat} {on : Waiting}
    (started : number < s.calls.length) (waits : (s.after run).waiting? number = some on) :
    ∃ old, s.waiting? number = some old := by
  -- Every stage is gone back over, from the last one to the first.
  induction run generalizing s with
  | nil => exact ⟨on, waits⟩
  | cons m run ih =>
    have longer := (s.stage m).calls_length_le
    obtain ⟨old, waits⟩ := ih (Nat.lt_of_lt_of_le started longer) waits
    exact Stage.waits_before started waits

/-- A call that still waits at the end of a run holds the ticket that it held at first. -/
theorem held?_of_after {s : Session} {run : List Moment} {number : Nat} {errand : Errand}
    {ticket : Ticket} {on : Waiting} (holds : s.held? number = some (errand, ticket))
    (waits : (s.after run).waiting? number = some on) :
    (s.after run).held? number = some (errand, ticket) := by
  -- The ticket is kept stage by stage, because the errand cannot have ended.
  induction run generalizing s with
  | nil => exact holds
  | cons m run ih =>
    rcases Stage.held?_after (g := s.stage m) holds with kept | ⟨outcome, ends⟩
    · exact ih kept waits
    · -- A call whose errand has ended would not wait at the end.
      obtain ⟨_, before, -⟩ := held?_eq_some_iff.1 holds
      have longer := (s.stage m).calls_length_le
      obtain ⟨old, still⟩ :=
        waits_of_after (Nat.lt_of_lt_of_le (lt_length_of_waiting before) longer) waits
      rw [ends.gone] at still
      cases still

/-- A call that waits at both ends of a run waits with one ticket before and after each stage. -/
theorem held?_of_mem {s : Session} {run : List Moment} {number : Nat} {errand : Errand}
    {ticket : Ticket} {on : Waiting} (holds : s.held? number = some (errand, ticket))
    (waits : (s.after run).waiting? number = some on) {g : Stage} (member : g ∈ s.stages run) :
    g.before.held? number = some (errand, ticket) ∧
      ∃ next, g.after.waiting? number = some next := by
  -- Who holds a ticket at the end has held it all the time.
  obtain ⟨first, m, rest, rfl, rfl⟩ := mem_stages member
  obtain ⟨_, before, -⟩ := held?_eq_some_iff.1 holds
  have started := lt_length_of_waiting before
  rw [after_append] at waits
  -- The run is cut before the stage and after it.
  have upTo := calls_length_le_after s first
  obtain ⟨old, here⟩ := waits_of_after (Nat.lt_of_lt_of_le started upTo) waits
  refine ⟨held?_of_after holds here, ?_⟩
  rw [after_cons] at waits
  have longer := ((s.after first).stage m).calls_length_le
  exact waits_of_after (Nat.lt_of_lt_of_le (Nat.lt_of_lt_of_le started upTo) longer) waits

/-- No stage of a run is about a call that has not been started by its end. -/
theorem not_isAbout_of_mem {s : Session} {run : List Moment} {number : Nat}
    (unstarted : (s.after run).calls.length ≤ number) {g : Stage} (member : g ∈ s.stages run) :
    ¬ g.IsAbout number := by
  -- No call is ever forgotten, and so the call would have its place at the end as well.
  obtain ⟨first, m, rest, rfl, rfl⟩ := mem_stages member
  intro about
  rw [after_append, after_cons] at unstarted
  have longer := calls_length_le_after ((s.after first).stage m).after rest
  have placed := about.lt_length
  omega

/-- Once a call is finished, no stage is about it any more. -/
theorem not_isAbout_of_finished {g : Stage} {number : Nat} {result : Result}
    (finished : g.call? = some (number, .finished result)) {run : List Moment} {later : Stage}
    (member : later ∈ g.after.stages run) : ¬ later.IsAbout number := by
  -- A stage is about an old call only if that waits, and this one waits for nothing from then on.
  obtain ⟨first, m, rest, rfl, rfl⟩ := mem_stages member
  intro about
  have placed := Stage.IsAbout.lt_length ⟨_, finished⟩
  have longer := calls_length_le_after g.after first
  obtain ⟨answers, on, -, waits⟩ := about.arrival (Nat.lt_of_lt_of_le placed longer)
  obtain ⟨old, still⟩ := waits_of_after placed waits
  rw [Stage.waiting?_after_of_call? finished] at still
  cases still

/-- What a call waits for at the end of a run it waited for all along, or it was sent for it at some
stage, since which nothing was about the call. -/
theorem exists_sent {s : Session} {run : List Moment} {number : Nat} {on : Waiting}
    (waits : (s.after run).waiting? number = some on) :
    (s.waiting? number = some on ∧ ∀ g ∈ s.stages run, ¬ g.IsAbout number) ∨
      ∃ earlier first later, s.stages run = earlier ++ first :: later ∧
        first.call? = some (number, .waiting on) ∧ ∀ g ∈ later, ¬ g.IsAbout number := by
  -- The last stage either sends the request or is about another call.
  induction run using List.reverseRecOn with
  | nil => exact .inl ⟨waits, by simp⟩
  | append_singleton run m ih =>
    rw [after_append] at waits
    rw [stages_append]
    have still {gs : List Stage} (before : ∀ g ∈ gs, ¬ g.IsAbout number)
        (other : ¬ ((s.after run).stage m).IsAbout number) :
        ∀ g ∈ gs ++ (s.after run).stages [m], ¬ g.IsAbout number := by
      simpa [or_imp, forall_and] using And.intro before other
    rcases Stage.waits_after (g := (s.after run).stage m) waits with ⟨waits, other⟩ |
      ⟨call, -, -, sent⟩ | ⟨answers, old, -, -, sent⟩
    · rcases ih waits with ⟨first, before⟩ | ⟨earlier, first, later, split, sent, before⟩
      · exact .inl ⟨first, still before other⟩
      · exact .inr ⟨earlier, first, later ++ _, by rw [split, List.append_assoc]; rfl, sent,
          still before other⟩
    · exact .inr ⟨s.stages run, _, [], rfl, sent, by simp⟩
    · exact .inr ⟨s.stages run, _, [], rfl, sent, by simp⟩

/-- The errand of a call that waits was started at some stage of the run. -/
theorem exists_starts {s : Session} (idle : s.calls = []) {run : List Moment} {number : Nat}
    {errand : Errand} {ticket : Ticket}
    (holds : (s.after run).held? number = some (errand, ticket)) :
    ∃ earlier first later, s.stages run = earlier ++ first :: later ∧
      first.Starts errand number := by
  -- The last stage either starts the errand itself or finds its ticket held already.
  induction run using List.reverseRecOn with
  | nil => simp [held?, waiting?, idle] at holds
  | append_singleton run m ih =>
    rw [after_append] at holds
    rw [stages_append]
    rcases Stage.held?_before (g := (s.after run).stage m) holds with kept | starts
    · obtain ⟨earlier, first, later, split, starts⟩ := ih kept
      exact ⟨earlier, first, later ++ _, by rw [split, List.append_assoc]; rfl, starts⟩
    · exact ⟨s.stages run, _, [], rfl, starts⟩

end Session

end SelectorTutorial
