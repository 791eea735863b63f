import SelectorTutorial.Proofs.Session.Conclusion

/-! Calls of one kind that are in flight together, of which only one will count. -/

namespace SelectorTutorial

/-- Lessons that stay the same stay fresh. -/
theorem Snapshot.IsFresh.of_same {answers : Answers} {old new : Snapshot}
    (fresh : old.IsFresh answers) (same : old.SameLessons new) : new.IsFresh answers := by
  -- Only the lessons and their order are looked at.
  unfold IsFresh Teaches at fresh ⊢
  rwa [same.1, same.2]

namespace Session

/-! ### Calls that are concluded one after the other -/

/-- What is seen once all calls of a list are concluded that wait for something. -/
def concludeAll (answers : Answers) (s : Session) (calls : List (Option Waiting)) : Session :=
  calls.foldl (fun s on => on.elim s fun on => (s.conclude answers on).1) s

/-- A call that has ended has nothing more to conclude. -/
@[simp] theorem concludeAll_cons_none (answers : Answers) (s : Session)
    (calls : List (Option Waiting)) :
    s.concludeAll answers (none :: calls) = s.concludeAll answers calls := rfl

/-- The calls that wait are concluded one after the other. -/
@[simp] theorem concludeAll_cons_some (answers : Answers) (s : Session) (on : Waiting)
    (calls : List (Option Waiting)) :
    s.concludeAll answers (some on :: calls) =
      (s.conclude answers on).1.concludeAll answers calls := rfl

/-- The calls of two lists are concluded one list after the other. -/
@[simp] theorem concludeAll_append (answers : Answers) (s : Session)
    (calls rest : List (Option Waiting)) :
    s.concludeAll answers (calls ++ rest) =
      (s.concludeAll answers calls).concludeAll answers rest :=
  List.foldl_append

/-- A call may as well be concluded before others on errands of its kind as after them. -/
theorem conclude_concludeAll (answers : Answers) (s : Session) {on : Waiting} {errand : Errand}
    {number : UInt64} (mine : on.held? = some (errand, ⟨errand.lane, number⟩))
    {calls : List (Option Waiting)}
    (others : ∀ other, some other ∈ calls →
      ∃ number', other.held? = some (errand, ⟨errand.lane, number'⟩) ∧ number' ≠ number) :
    ((s.concludeAll answers calls).conclude answers on).1 =
      (s.conclude answers on).1.concludeAll answers calls := by
  -- The call changes places with one call after the other.
  induction calls generalizing s with
  | nil => rfl
  | cons call calls ih =>
    have later := fun other member => others other (List.mem_cons_of_mem call member)
    cases call with
    | none => exact ih s later
    | some other =>
      obtain ⟨number', theirs, apart⟩ := others other (List.mem_cons_self ..)
      rw [concludeAll_cons_some, concludeAll_cons_some, ih _ later,
        conclude_comm answers s theirs mine apart]

/-- What will be seen once every call that waits is concluded, in the order in which the calls were
started. -/
def settled (answers : Answers) (s : Session) : Session :=
  s.visible.concludeAll answers s.calls

/-- Where nothing waits all calls have ended. -/
theorem calls_of_idle {s : Session} (idle : ∀ number, s.waiting? number = none) :
    s.calls = List.replicate s.calls.length none := by
  -- Each place in the list of calls is empty.
  refine List.eq_replicate_iff.2 ⟨rfl, fun on member => ?_⟩
  obtain ⟨number, place⟩ := List.getElem?_of_mem member
  have gone := idle number
  rw [waiting?, place] at gone
  exact gone

/-- Where all calls have ended nothing waits. -/
theorem idle_of_calls {s : Session} (count : Nat) (ended : s.calls = List.replicate count none)
    (number : Nat) : s.waiting? number = none := by
  -- No place holds anything, and beyond the list there is nothing either.
  rw [waiting?, ended, List.getElem?_replicate]
  split <;> rfl

/-- Where nothing waits all has been seen. -/
theorem settled_of_idle (answers : Answers) {s : Session}
    (idle : ∀ number, s.waiting? number = none) : s.settled answers = s.visible := by
  -- There is nothing to conclude at any of the places.
  rw [settled, calls_of_idle idle]
  induction s.calls.length with
  | zero => rfl
  | succ count ih => exact ih

/-! ### Calls in flight -/

/-- Calls are in flight on errands of one kind, with tickets that were issued from some number
on. -/
structure InFlight (s : Session) (errand : Errand) (answers : Answers) (first : UInt64)
    (count : Nat) : Prop where
  /-- The tickets issued so far have been counted. -/
  reached : s.reached errand = first + UInt64.ofNat count
  /-- Every call that waits holds one of them. -/
  numbered : ∀ number on, s.waiting? number = some on →
    ∃ i ≤ count, on.held? = some (errand, ⟨errand.lane, first + UInt64.ofNat i⟩)
  /-- No two calls hold the same. -/
  apart : ∀ number number' held, s.held? number = some held → s.held? number' = some held →
    number = number'
  /-- Lessons that are known while a call waits for them are those that it will be told. -/
  fresh : ∀ number on, s.waiting? number = some on → on.call = .lessons →
    s.shared.IsFresh answers

/-- Where nothing waits no ticket has been issued yet. -/
theorem inFlight_of_idle {s : Session} (idle : ∀ number, s.waiting? number = none)
    (errand : Errand) (answers : Answers) : s.InFlight errand answers (s.reached errand) 0 where
  -- All of it is about calls that wait, of which there are none.
  reached := by simp
  numbered number on waits := by simp [idle] at waits
  apart number number' held holds := by simp [held?, idle] at holds
  fresh number on waits := by simp [idle] at waits

/-- Two calls that wait hold different tickets. -/
theorem InFlight.ne_of_ne {s : Session} {errand : Errand} {answers : Answers} {first : UInt64}
    {count : Nat} (inFlight : s.InFlight errand answers first count) {number number' : Nat}
    {on other : Waiting} {mine theirs : UInt64} (waits : s.waiting? number = some on)
    (waits' : s.waiting? number' = some other) (different : number ≠ number')
    (holds : on.held? = some (errand, ⟨errand.lane, mine⟩))
    (holds' : other.held? = some (errand, ⟨errand.lane, theirs⟩)) : mine ≠ theirs := by
  -- With the same number they would hold the same ticket.
  rintro rfl
  exact different (inFlight.apart number number' _ (held?_eq_some_iff.2 ⟨on, waits, holds⟩)
    (held?_eq_some_iff.2 ⟨other, waits', holds'⟩))

namespace Stage

/-- All that an answer can do while calls on errands of one kind are in flight. -/
inductive Answered (g : Stage) (errand : Errand) (answers : Answers) (first : UInt64)
    (count number : Nat) : Prop
  /-- Nothing waits for it. -/
  | stray (unchanged : g.after = g.before) (untaken : g.call? = none)
  /-- It concludes the call that waits for it. -/
  | concluded {on i result} (waits : g.before.waiting? number = some on) (issued : i ≤ count)
      (holds : on.held? = some (errand, ⟨errand.lane, first + UInt64.ofNat i⟩))
      (seen : g.after.visible = (g.before.visible.conclude answers on).1)
      (calls : g.after.calls = g.before.calls.set number none)
      (came : (g.before.visible.conclude answers on).2 = .finished result)
      (taken : g.call? = some (number, .finished result))
  /-- The call that waits for it goes on, and all stays as it is, with it what the call will come
  to. -/
  | goesOn {on next i} (waits : g.before.waiting? number = some on) (issued : i ≤ count)
      (holds : next.held? = some (errand, ⟨errand.lane, first + UInt64.ofNat i⟩))
      (seen : g.after.visible = g.before.visible)
      (calls : g.after.calls = g.before.calls.set number (some next))
      (same : ∀ t : Session, t.conclude answers next = t.conclude answers on)
      (taken : g.call? = some (number, .waiting next))

variable {g : Stage} {errand : Errand} {answers : Answers} {first : UInt64} {count number : Nat}

/-- While calls on errands of one kind are in flight an answer does one of these things. -/
theorem answered (inFlight : g.before.InFlight errand answers first count)
    (arrived : g.event = .arrival number answers) :
    g.Answered errand answers first count number := by
  -- By whether the call waits, and then by whether it ends with this answer.
  cases waits : g.before.waiting? number with
  | none =>
    obtain ⟨unchanged, untaken⟩ := of_stray arrived waits
    exact .stray unchanged untaken
  | some on =>
    obtain ⟨i, issued, holds⟩ := inFlight.numbered number on waits
    obtain ⟨after, taken⟩ := of_arrival arrived waits
    -- Of the step that the call takes only what is seen of it matters.
    have gone := goOn_visible g.time answers g.before on
    generalize g.before.goOn g.time answers on = step at after taken gone
    obtain ⟨made, progress⟩ := step
    rcases goOn_concludes answers g.before.visible holds (inFlight.fresh number on waits) with
      ended | ⟨next, stays, keeps, same⟩
    · obtain ⟨result, came⟩ := conclude_finished answers g.before.visible holds
      have seen := gone.trans ended
      rw [← seen] at came
      obtain rfl : progress = .finished result := came
      exact .concluded waits issued holds (by rw [after, ← seen]; rfl) (by rw [after]; rfl)
        (by rw [← seen]; rfl) taken
    · rw [stays, Prod.map, Prod.mk.injEq] at gone
      obtain ⟨seen, rfl⟩ := gone
      exact .goesOn waits issued (keeps.trans holds) (by rw [after, ← seen]; rfl)
        (by rw [after]; rfl) same taken

/-- Answers do not touch the number that the lane of the calls in flight has reached. -/
theorem reached_after_of_inFlight (inFlight : g.before.InFlight errand answers first count)
    (arrived : g.event = .arrival number answers) :
    g.after.reached errand = g.before.reached errand := by
  -- By what an answer does to calls in flight: none of it issues a ticket.
  rw [← visible_reached g.after, ← visible_reached g.before]
  cases answered inFlight arrived with
  | stray unchanged => rw [unchanged]
  | concluded _ _ holds seen => rw [seen, reached_conclude answers _ holds]
  | goesOn _ _ _ seen => rw [seen]

/-- What will be seen once all is settled does not change by an answer. -/
theorem settled_after (inFlight : g.before.InFlight errand answers first count)
    (arrived : g.event = .arrival number answers) :
    g.after.settled answers = g.before.settled answers := by
  -- By what the answer does; only a call that is concluded moves anything.
  cases answered inFlight arrived with
  | stray unchanged => rw [unchanged]
  | @concluded _ i _ waits _ holds seen calls =>
    -- The call that is concluded here changes places with those that were started before it.
    obtain ⟨front, back, split, length, set⟩ := exists_split_of_waits waits none
    have others : ∀ other, some other ∈ front → ∃ number',
        other.held? = some (errand, ⟨errand.lane, number'⟩) ∧ number' ≠ first + UInt64.ofNat i := by
      intro other member
      obtain ⟨number', placed⟩ := List.getElem?_of_mem member
      have before : number' < front.length := (List.getElem?_eq_some_iff.1 placed).1
      have waits' : g.before.waiting? number' = some other := by
        rw [waiting?, split, List.getElem?_append_left before, placed]
        rfl
      obtain ⟨j, -, theirs⟩ := inFlight.numbered number' other waits'
      exact ⟨_, theirs, inFlight.ne_of_ne waits' waits (by omega) theirs holds⟩
    rw [settled, settled, seen, calls, set, split]
    simp only [concludeAll_append, concludeAll_cons_none, concludeAll_cons_some]
    rw [conclude_concludeAll answers g.before.visible holds others]
  | goesOn waits _ _ seen calls same =>
    -- What waits in the place of the call comes to the same.
    obtain ⟨front, back, split, -, set⟩ := exists_split_of_waits waits _
    rw [settled, settled, seen, calls, set, split]
    simp only [concludeAll_append, concludeAll_cons_some, same]

end Stage

/-- What happens is a call on errands of a kind, an edit of a page, or one of these answers. -/
def Event.BelongsTo (errand : Errand) (answers : Answers) : Event → Prop
  | .call (.lesson (.load _)) => errand = .load
  | .call (.lesson .run) => errand = .lessonRun
  | .call (.lesson (.press key)) => errand = .lessonRun ∧ key.shortcut = some .runSelection
  | .call (.playground .compile) => errand = .compile
  | .call (.playground .run) => errand = .playgroundRun
  | .call _ => False
  | .edit (.share _) => False
  | .edit _ => True
  | .arrival _ told => told = answers

/-- A call on errands of a kind that waits is on such an errand, and does not wait for lessons. -/
theorem begin_belongs {now : Timestamp} {s : Session} {call : Call} {on : Waiting} {errand : Errand}
    {answers : Answers} (belongs : (Event.call call).BelongsTo errand answers)
    (waits : (s.begin now call).2 = .waiting on) :
    (∃ ticket, on.held? = some (errand, ticket)) ∧ on.call ≠ .lessons := by
  -- None of these calls is for the lists, and so each takes a ticket before it waits.
  cases call with
  | ensureLessons | ensureCatalog => cases belongs
  | lesson call =>
    obtain ⟨next, started, rfl⟩ := Progress.map_eq_waiting.1 waits
    have begins := LessonPage.start_begins now s.lesson s.shared call
    generalize s.lesson.start now s.shared call = step at begins started
    cases begins with
    | asked => cases belongs
    | loads =>
      cases started
      cases belongs
      exact ⟨⟨_, rfl⟩, nofun⟩
    | runs runs =>
      cases started
      have own : errand = .lessonRun := by
        rcases runs with rfl | ⟨key, rfl, -⟩
        · exact belongs
        · exact belongs.1
      exact ⟨⟨_, by rw [own]; rfl⟩, nofun⟩
    | routed | skipped | toggled | unbound => cases started
  | playground call =>
    obtain ⟨next, started, rfl⟩ := Progress.map_eq_waiting.1 waits
    have begins := Playground.start_begins s.playground s.shared call
    generalize s.playground.start s.shared call = step at begins started
    cases begins with
    | asked => cases belongs
    | compiles | runs =>
      cases started
      cases belongs
      exact ⟨⟨_, rfl⟩, nofun⟩
    | prepared | skipped | unsupported | unreadable => cases started

namespace Stage

variable {g : Stage} {errand : Errand} {answers : Answers} {first : UInt64} {count : Nat}

/-- Lessons that are fresh stay so. -/
theorem isFresh_after (belongs : g.event.BelongsTo errand answers)
    (fresh : g.before.shared.IsFresh answers) : g.after.shared.IsFresh answers := by
  -- Lessons change only where they are told, and it is always these that are.
  cases event : g.event with
  | call call =>
    rw [(of_call event).1]
    exact fresh.of_same (begin_lessons g.time g.before call).1
  | edit edit =>
    refine fresh.of_same (lessons_of_edit event fun lessons same => ?_)
    rw [event, same] at belongs
    exact belongs
  | arrival number told =>
    rw [event] at belongs
    cases belongs
    rcases lessons_of_arrival event with same | ⟨_, lessons, -, -, told, teaches⟩
    · exact fresh.of_same same
    · exact .inr ⟨lessons, told, teaches⟩

/-- Each call takes up the number of its lane by one at most, and exactly by one if it starts an
errand of the kind that is in flight. -/
theorem exists_reached_after (inFlight : g.before.InFlight errand answers first count)
    (belongs : g.event.BelongsTo errand answers) :
    ∃ count', count ≤ count' ∧ count' ≤ count + callsMade [g.toMoment] ∧
      g.after.reached errand = first + UInt64.ofNat count' ∧
      ∀ number, g.Starts errand number → count' = count + 1 := by
  -- The number is taken up by whatever overtakes errands of the kind, and that can only be a call.
  rcases g.reached_after errand with ⟨overtakes, up⟩ | ⟨idle, same⟩
  · have made : callsMade [g.toMoment] = 1 := by
      cases event : g.event with
      | call | edit => simp [callsMade, event, Event.isCall]
      | arrival number told =>
        -- An answer overtakes nothing that is in flight.
        rw [event] at belongs
        cases belongs
        exact absurd overtakes (not_overtakes_of_reached (reached_after_of_inFlight inFlight event))
    refine ⟨count + 1, by omega, by omega, ?_, fun _ _ => rfl⟩
    rw [up, inFlight.reached, UInt64.ofNat_add, UInt64.add_assoc]
    rfl
  · refine ⟨count, by omega, by omega, by rw [same, inFlight.reached], fun number starts => ?_⟩
    exact absurd ((g.overtakes_iff errand).2 (.inl ⟨number, starts⟩)) idle

/-- The first step of a call on errands of a kind starts such an errand if the call waits
then. -/
theorem starts_of_belongs {call : Call} {number : Nat} {on : Waiting}
    (called : g.event = .call call) (taken : g.call? = some (number, .waiting on))
    (belongs : g.event.BelongsTo errand answers) :
    g.Starts errand number ∧ on.call ≠ .lessons := by
  -- A call that waits after its first step holds a ticket that it has just been given.
  rw [called] at belongs
  have begun := (of_call called).2
  rw [taken, Option.some.injEq, Prod.mk.injEq] at begun
  obtain ⟨⟨ticket, holds⟩, asks⟩ := begin_belongs belongs begun.2.symm
  exact ⟨⟨call, on, ticket, called, taken, holds⟩, asks⟩

/-- After a stage every call that waits holds one of the tickets that were issued. -/
theorem numbered_after (inFlight : g.before.InFlight errand answers first count)
    (belongs : g.event.BelongsTo errand answers) {count' : Nat} (grows : count ≤ count')
    (reached : g.after.reached errand = first + UInt64.ofNat count') {number : Nat} {on : Waiting}
    (waits : g.after.waiting? number = some on) :
    ∃ i ≤ count', on.held? = some (errand, ⟨errand.lane, first + UInt64.ofNat i⟩) := by
  -- By where what waits after the stage comes from.
  rcases waits_after waits with ⟨waits, -⟩ | ⟨call, called, -, taken⟩ |
    ⟨told, old, arrived, waits, taken⟩
  · obtain ⟨i, le, holds⟩ := inFlight.numbered number on waits
    exact ⟨i, Nat.le_trans le grows, holds⟩
  · -- A new call holds the newest ticket.
    have newest := (starts_of_belongs called taken belongs).1.held.2
    rw [held?, waits, reached] at newest
    exact ⟨count', Nat.le_refl _, newest⟩
  · -- A call that goes on keeps its ticket.
    rw [arrived] at belongs
    cases belongs
    cases answered inFlight arrived with
    | stray _ untaken => simp [untaken] at taken
    | concluded _ _ _ _ _ _ finished => simp [finished] at taken
    | goesOn _ issued holds _ _ _ taken' =>
      rw [taken'] at taken
      cases taken
      exact ⟨_, Nat.le_trans issued grows, holds⟩

/-- A call that waited before holds another ticket than one that starts, unless the numbers come
round again. -/
theorem held_ne_of_starts (inFlight : g.before.InFlight errand answers first count)
    (few : count + 1 < UInt64.size)
    (reached : g.after.reached errand = first + UInt64.ofNat (count + 1)) {number number' : Nat}
    {held : Errand × Ticket} (starts : g.Starts held.1 number)
    (holds : g.after.held? number = some held) : g.before.held? number' ≠ some held := by
  -- A ticket that was held before has a smaller number than a new one.
  intro before
  obtain ⟨on, waits, mine⟩ := held?_eq_some_iff.1 before
  obtain ⟨i, le, same⟩ := inFlight.numbered number' on waits
  rw [mine, Option.some.injEq] at same
  subst same
  have newest := starts.held.2
  rw [holds, reached, Option.some.injEq, Prod.mk.injEq, Ticket.mk.injEq] at newest
  -- Both numbers are small, and so they would be the same.
  have numbers : UInt64.ofNat i = UInt64.ofNat (count + 1) := by simpa using newest.2.2
  rw [UInt64.ofNat_eq_iff_mod_eq_toNat, UInt64.toNat_ofNat_of_lt' few,
    Nat.mod_eq_of_lt (Nat.lt_of_le_of_lt (Nat.le_succ_of_le le) few)] at numbers
  omega

/-- Calls on errands of one kind stay in flight together with those that are started. -/
theorem inFlight_after (inFlight : g.before.InFlight errand answers first count)
    (belongs : g.event.BelongsTo errand answers)
    (few : count + callsMade [g.toMoment] < UInt64.size) :
    ∃ count' ≤ count + callsMade [g.toMoment], g.after.InFlight errand answers first count' := by
  -- Tickets, their difference and what is known of the lessons are kept, one after another.
  obtain ⟨count', grows, bound, reached, started⟩ := exists_reached_after inFlight belongs
  have numbered {number : Nat} {on : Waiting} (waits : g.after.waiting? number = some on) :=
    numbered_after inFlight belongs grows reached waits
  refine ⟨count', bound, reached, fun number on => numbered, ?_, ?_⟩
  · intro number number' held holds holds'
    -- Whoever starts an errand here starts one of the kind that is in flight.
    have newer {number : Nat} (starts : g.Starts held.1 number)
        (holds : g.after.held? number = some held) (number' : Nat) :
        g.before.held? number' ≠ some held := by
      obtain ⟨on, waits, mine⟩ := held?_eq_some_iff.1 holds
      obtain ⟨i, -, same⟩ := numbered waits
      rw [mine, Option.some.injEq] at same
      have next : count' = count + 1 := started number (by rw [same] at starts; exact starts)
      subst next
      exact held_ne_of_starts inFlight (by omega) reached starts holds
    rcases held?_before holds with before | starts <;>
      rcases held?_before holds' with before' | starts'
    · exact inFlight.apart number number' held before before'
    · exact absurd before (newer starts' holds' number)
    · exact absurd before' (newer starts holds number')
    · rw [starts.held.1, starts'.held.1]
  · intro number on waits asks
    rcases waits_after waits with ⟨waits, -⟩ | ⟨call, called, -, taken⟩ | ⟨_, _, -, -, taken⟩
    · exact isFresh_after belongs (inFlight.fresh number on waits asks)
    · exact absurd asks (starts_of_belongs called taken belongs).2
    · -- Lessons are asked for only where none are known.
      exact isFresh_after belongs (.inl (Requests.unknown ⟨on, taken, asks⟩).1)

end Stage

end Session

end SelectorTutorial
