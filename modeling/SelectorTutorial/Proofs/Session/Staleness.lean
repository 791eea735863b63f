import SelectorTutorial.Proofs.Session.Held

/-! An errand comes too late exactly when another one has overtaken it. -/

namespace SelectorTutorial

/-- At most the lessons that are shared have changed. -/
def Snapshot.SameButLessons (old new : Snapshot) : Prop :=
  new = { old with lessons := new.lessons, order := new.order }

/-- The lessons are one of the lists. -/
theorem Snapshot.SameButLessons.sameButLists {old new : Snapshot} (same : old.SameButLessons new) :
    old.SameButLists new := by
  -- Lessons and order are among the fields that may differ.
  rw [SameButLists, same]

/-- Fetching the lessons changes nothing else. -/
theorem Snapshot.Fetched.sameButLessons {now : Timestamp} {answers : Answers} {old new : Snapshot}
    (fetched : old.Fetched now answers new) : old.SameButLessons new := by
  -- Nothing was fetched, or just the lessons were.
  rcases fetched with rfl | ⟨lessons, -, rfl⟩ <;> rfl

namespace Session

/-- Whether what a call waits for may overtake an errand once the call is applied. -/
def Waiting.threatens (errand : Errand) (on : Waiting) : Bool :=
  on.held?.any fun held => held.1.rival = some errand

/-- How many calls wait that may overtake an errand once they are applied. -/
def threats (s : Session) (errand : Errand) : Nat :=
  s.calls.countP fun on => on.any (·.threatens errand)

/-- Where no call was made no errand is threatened. -/
@[simp] theorem threats_of_idle {s : Session} (idle : s.calls = []) (errand : Errand) :
    s.threats errand = 0 := by
  -- It counts calls that wait.
  simp [threats, idle]

namespace Stage

/-- Nothing has changed on either page, nor in what they share but the lessons. -/
structure IsQuiet (g : Stage) : Prop where
  /-- The lesson page is what it was. -/
  lesson : g.after.lesson = g.before.lesson
  /-- The playground is what it was. -/
  playground : g.after.playground = g.before.playground
  /-- What is shared is what it was, but for the lessons. -/
  shared : g.before.shared.SameButLessons g.after.shared

/-- A call that was just started threatens no errand of its own kind. -/
theorem not_threatens_of_starts {g : Stage} {errand : Errand} {number taken : Nat}
    {progress : Progress Waiting Result} (starts : g.Starts errand number)
    (about : g.call? = some (taken, progress)) :
    (pending progress).any (·.threatens errand) = false := by
  -- The call waits with a ticket for its own errand.
  obtain ⟨call, on, ticket, -, about', holds⟩ := starts
  rw [about] at about'
  cases about'
  -- No errand is its own rival.
  cases errand <;> simp [pending, Waiting.threatens, holds, Errand.rival]

/-- A call that goes on threatens no errand that it did not threaten before. -/
theorem threatens_of_goesOn {g : Stage} {number : Nat} {answers : Answers} {on next : Waiting}
    {errand : Errand} (arrived : g.event = .arrival number answers)
    (waits : g.before.waiting? number = some on)
    (goesOn : g.call? = some (number, .waiting next)) (threat : next.threatens errand = true) :
    on.threatens errand = true := by
  -- A call that waits on keeps its ticket, and with it the errand that it threatens.
  obtain ⟨page, progress, taken, handles, -⟩ := handles_of_arrival arrived waits
  rw [goesOn] at taken
  cases taken
  simp only [Progress.map] at handles
  generalize g.after.tickets page = t at handles
  unfold Waiting.threatens at threat ⊢
  generalize next.held? = after at handles threat
  generalize on.held? = before at handles
  cases handles with
  | without free =>
    cases after with
    | none => exact threat
    | some held => exact absurd rfl (free held)
  | keeps => exact threat

/-- A call that is started adds to the threats what it waits for. -/
theorem threats_of_call {g : Stage} {call : Call} {number : Nat}
    {progress : Progress Waiting Result} (called : g.event = .call call)
    (taken : g.call? = some (number, progress)) (errand : Errand) :
    g.after.threats errand =
      g.before.threats errand + if (pending progress).any (·.threatens errand) then 1 else 0 := by
  -- The new call stands behind the others, and those wait for what they waited for.
  obtain ⟨after, taken'⟩ := of_call called
  rw [taken] at taken'
  cases taken'
  simp [threats, after, List.countP_singleton]

/-- A call that goes on puts what it waits for next in the place of what it waited for. -/
theorem threats_of_arrival {g : Stage} {number : Nat} {answers : Answers} {on : Waiting}
    {progress : Progress Waiting Result} (arrived : g.event = .arrival number answers)
    (waits : g.before.waiting? number = some on) (taken : g.call? = some (number, progress))
    (errand : Errand) :
    g.after.threats errand + (if on.threatens errand then 1 else 0) =
      g.before.threats errand + if (pending progress).any (·.threatens errand) then 1 else 0 := by
  -- Of all calls only the one that is answered changes what it waits for.
  obtain ⟨after, taken'⟩ := of_arrival arrived waits
  rw [taken] at taken'
  cases taken'
  have inside := lt_length_of_waiting waits
  have place : g.before.calls[number] = some on := by
    simpa [waiting?, inside] using waits
  have counted := List.boole_getElem_le_countP
    (p := fun on : Option Waiting => on.any (·.threatens errand)) inside
  simp only [place, Option.any_some] at counted
  simp only [threats, after, List.countP_set inside, place, Option.any_some]
  omega

/-- An errand is threatened by one call more at most, and only after a call was made. -/
theorem threats_after_le (g : Stage) (errand : Errand) :
    g.after.threats errand ≤ g.before.threats errand + callsMade [g.toMoment] := by
  -- An answer turns no call into a threat, and so it takes a call that is made.
  cases event : g.event with
  | call call =>
    have grows := threats_of_call event (of_call event).2 errand
    simp only [callsMade, List.countP_singleton, event, Event.isCall, if_true]
    split at grows <;> omega
  | edit edit => simp [threats, (of_edit event).1]
  | arrival number answers =>
    cases waits : g.before.waiting? number with
    | none => simp [threats, (of_stray event waits).1]
    | some on =>
      have taken := (of_arrival event waits).2
      have moves := threats_of_arrival event waits taken errand
      cases progress : (g.before.goOn g.time answers on).2 with
      | finished result =>
        simp only [progress, pending, Option.any_none, Bool.false_eq_true, if_false] at moves
        omega
      | waiting next =>
        rw [progress] at taken
        have kept : next.threatens errand = true → on.threatens errand = true :=
          threatens_of_goesOn event waits taken
        simp only [progress, pending, Option.any_some] at moves
        by_cases threat : next.threatens errand = true
        · simp only [threat, kept threat, if_true] at moves
          omega
        · simp only [threat, Bool.false_eq_true, if_false] at moves
          omega

/-- To overtake an errand takes a call that is made, or uses a threat to it up. -/
theorem threats_after_lt {g : Stage} {errand : Errand} (overtakes : g.Overtakes errand) :
    g.after.threats errand < g.before.threats errand + callsMade [g.toMoment] := by
  rw [overtakes_iff] at overtakes
  rcases overtakes with ⟨number, starts⟩ | ⟨winner, number, rivals, ends⟩ | ⟨-, cleared⟩
  · -- The call that overtakes is made here, and it threatens no errand of its own kind.
    obtain ⟨call, on, ticket, called, taken, holds⟩ := id starts
    have same := threats_of_call called taken errand
    rw [not_threatens_of_starts starts taken] at same
    simp [same, callsMade, called, Event.isCall]
  · -- The call that overtakes waited, and does so no more.
    obtain ⟨answers, on, ticket, result, arrived, waits, holds, taken, -⟩ := ends
    have moves := threats_of_arrival arrived waits taken errand
    have threat : on.threatens errand = true := by simp [Waiting.threatens, holds, rivals]
    simp only [threat, pending, Option.any_none, if_true, Bool.false_eq_true, if_false] at moves
    omega
  · simp [threats, (of_edit cleared).1, callsMade, cleared, Event.isCall]

/-- Until it counts, a call with a ticket leaves everything as it is but the lessons. -/
theorem isQuiet_of_held {g : Stage} {number : Nat} {errand : Errand} {ticket : Ticket}
    {progress : Progress Waiting Result} (holds : g.before.held? number = some (errand, ticket))
    (taken : g.call? = some (number, progress))
    (uncounted : ∀ result, progress = .finished result → result.outcome? = some .superseded) :
    g.IsQuiet := by
  -- Each step that changes more than the lessons ends its call, and counts.
  obtain ⟨on, waits, held⟩ := held?_eq_some_iff.1 holds
  obtain ⟨answers, _, arrived, -⟩ :=
    IsAbout.arrival ⟨progress, taken⟩ (lt_length_of_waiting waits)
  cases on with
  | lessons | catalog on => cases held
  | lesson on =>
    obtain ⟨step, goesOn, takes⟩ := Stage.goesOn_of_lesson arrived waits
    have same := takes.taken
    rw [taken] at same
    cases same
    cases goesOn with
    | found | lost => cases held
    | fetched | seeks => exact ⟨takes.lesson, takes.playground, takes.shared ▸ rfl⟩
    | late _ _ lists =>
      exact ⟨takes.lesson, takes.playground, takes.shared ▸ lists.sameButLessons⟩
    | applied | failed | selected | refused =>
      have dropped := uncounted _ rfl
      cases dropped
  | playground on =>
    obtain ⟨step, goesOn, takes⟩ := Stage.goesOn_of_playground arrived waits
    have same := takes.taken
    rw [taken] at same
    cases same
    cases goesOn with
    | asked | prepared => cases held
    | late => exact ⟨takes.lesson, takes.playground, takes.shared ▸ rfl⟩
    | applied | failed | selected | refused =>
      have dropped := uncounted _ rfl
      cases dropped

end Stage

/-- A run takes the number of a lane up once for each stage that overtakes, and there are at most as
many of these as there were threats before it and calls in it. -/
theorem reached_after_run (s : Session) (run : List Moment) (errand : Errand) :
    ∃ count, (s.after run).reached errand = s.reached errand + UInt64.ofNat count ∧
      (count = 0 ↔ ∀ g ∈ s.stages run, ¬ g.Overtakes errand) ∧
      count + (s.after run).threats errand ≤ s.threats errand + callsMade run := by
  -- The stages are counted from the first one on; a threat is used up by the stage it leads to.
  induction run generalizing s with
  | nil => exact ⟨0, by simp, by simp, by simp [callsMade]⟩
  | cons m run ih =>
    obtain ⟨count, reached, none, bound⟩ := ih (s.stage m).after
    have made : callsMade (m :: run) = callsMade [m] + callsMade run := callsMade_append [m] run
    rcases (s.stage m).reached_after errand with ⟨overtakes, up⟩ | ⟨idle, same⟩
    · have used : (s.stage m).after.threats errand < s.threats errand + callsMade [m] :=
        Stage.threats_after_lt overtakes
      -- The first stage takes the number up by one, and the others by the rest.
      refine ⟨count + 1, ?_, by simp [overtakes], ?_⟩
      · rw [after_cons, reached, up, UInt64.ofNat_add, UInt64.add_assoc, UInt64.add_comm 1]
        rfl
      · rw [after_cons]
        omega
    · have most : (s.stage m).after.threats errand ≤ s.threats errand + callsMade [m] :=
        (s.stage m).threats_after_le errand
      refine ⟨count, ?_, by simp [none, idle], ?_⟩
      · rw [after_cons, reached, same]
        rfl
      · rw [after_cons]
        omega

/-- Among fewer than 2 ^ 64 calls no number of a lane comes round again: after a stage the number
that its lane had reached is still reached exactly if nothing has overtaken it. -/
theorem reached_eq_iff {s : Session} (idle : s.calls = []) {run : List Moment}
    (few : callsMade run < UInt64.size) {earlier later : List Stage} {g : Stage}
    (split : s.stages run = earlier ++ g :: later) (errand : Errand) :
    (s.after run).reached errand = g.after.reached errand ↔
      ∀ other ∈ later, ¬ other.Overtakes errand := by
  obtain ⟨first, m, rest, rfl, rfl, rfl, rfl⟩ := stages_eq_append_cons split
  -- At most the calls made up to the stage can still threaten the errand after it.
  obtain ⟨_, -, -, before⟩ := s.reached_after_run (first ++ [m]) errand
  obtain ⟨count, reached, none, bound⟩ :=
    ((s.after first).stage m).after.reached_after_run rest errand
  have small : count < UInt64.size := by
    rw [threats_of_idle idle, after_append] at before
    simp only [after_cons, after_nil] at before
    have made : callsMade (first ++ m :: rest) = callsMade (first ++ [m]) + callsMade rest := by
      rw [← callsMade_append, List.append_assoc, List.singleton_append]
    omega
  rw [after_append, after_cons, reached, ← none]
  constructor
  · intro same
    -- A count below the size of the numbers comes to zero only if it is zero.
    have zero : UInt64.ofNat count = 0 := by simpa using same
    rw [UInt64.ofNat_eq_iff_mod_eq_toNat, Nat.mod_eq_of_lt small] at zero
    exact zero
  · rintro rfl
    simp

/-- As long as a call with a ticket waits, its steps leave everything as it is but the lessons. -/
theorem isQuiet_of_waits {s : Session} {run : List Moment} {number : Nat} {errand : Errand}
    {ticket : Ticket} {on : Waiting} (holds : s.held? number = some (errand, ticket))
    (waits : (s.after run).waiting? number = some on) {g : Stage} (member : g ∈ s.stages run)
    (about : g.IsAbout number) : g.IsQuiet := by
  obtain ⟨progress, taken⟩ := about
  obtain ⟨holds, next, still⟩ := held?_of_mem holds waits member
  -- The call has not ended with this stage, because it waits after it.
  refine Stage.isQuiet_of_held holds taken fun result finished => ?_
  rw [Stage.waiting?_after_of_call? taken, finished] at still
  cases still

/-- An errand comes too late exactly if another one overtakes it between its start and its end, and
then none of its steps after the first has changed anything but the lessons that are shared. -/
theorem superseded_iff_overtaken (shared : Snapshot) {run : List Moment}
    (few : callsMade run < UInt64.size) {past later : List Stage} {last : Stage} {errand : Errand}
    {number : Nat} {outcome : Outcome}
    (split : ({ shared } : Session).stages run = past ++ last :: later)
    (ends : last.Ends errand number outcome) :
    ∃ earlier first between, past = earlier ++ first :: between ∧ first.Starts errand number ∧
      (outcome = .superseded ↔ ∃ g ∈ between, g.Overtakes errand) ∧
      (outcome = .superseded → ∀ g ∈ between ++ [last], g.IsAbout number → g.IsQuiet) := by
  -- One ticket is held from the start of the errand to its end; what lies between decides.
  obtain ⟨run, m, rest, rfl, rfl, rfl, -⟩ := stages_eq_append_cons split
  rw [callsMade_append] at few
  obtain ⟨ticket, holds⟩ := ends.held
  obtain ⟨on, waits, -⟩ := held?_eq_some_iff.1 holds
  obtain ⟨earlier, first, between, split, starts⟩ := exists_starts rfl holds
  have counted := reached_eq_iff rfl (by omega) split errand
  refine ⟨earlier, first, between, split, starts, ?_⟩
  obtain ⟨run, m₀, window, rfl, rfl, rfl, rfl⟩ := stages_eq_append_cons split
  rw [after_append, after_cons] at counted
  simp only [stage, after_append, after_cons] at waits
  constructor
  · -- The ticket is still the one that was the newest at the start.
    have kept := held?_of_after starts.held.2 waits
    rw [ends.superseded_iff (by simpa only [stage, after_append, after_cons] using kept)]
    simp only [stage, after_append, after_cons] at counted ⊢
    rw [Ne, counted]
    simp only [not_forall, not_not, exists_prop]
  · rintro rfl g member about
    rcases List.mem_append.1 member with inside | here
    · exact isQuiet_of_waits starts.held.2 waits inside about
    · -- At the last stage the answer is dropped.
      rw [List.mem_singleton.1 here]
      obtain ⟨_, _, _, result, -, -, -, taken, came⟩ := id ends
      refine Stage.isQuiet_of_held holds taken fun result finished => ?_
      cases finished
      exact came

/-- A lesson is asked for. -/
def firstLoad : Moment := ⟨⟨0⟩, .call (.lesson (.load ⟨"extrude"⟩))⟩

/-- Another lesson is asked for. -/
def secondLoad : Moment := ⟨⟨1⟩, .call (.lesson (.load ⟨"revolve"⟩))⟩

/-- The lesson that was asked for first cannot be fetched. -/
def firstFailure : Moment := ⟨⟨2⟩, .arrival 0 (.failure (.unreachable "timeout"))⟩

/-- The second of two loads makes the answer to the first one come too late. -/
theorem superseded_by_second_load :
    callsMade [firstLoad, secondLoad, firstFailure] < UInt64.size ∧
    ((({} : Session).after [firstLoad, secondLoad]).stage firstFailure).Ends .load 0 .superseded ∧
    ∃ earlier first between,
      ({} : Session).stages [firstLoad, secondLoad] = earlier ++ first :: between ∧
      first.Starts .load 0 ∧
      (Outcome.superseded = .superseded ↔ ∃ g ∈ between, g.Overtakes .load) ∧
      (Outcome.superseded = .superseded →
        ∀ g ∈ between ++ [(({} : Session).after [firstLoad, secondLoad]).stage firstFailure],
          g.IsAbout 0 → g.IsQuiet) := by
  -- The answer to the first load comes last, as the only stage that ends it.
  have few : callsMade [firstLoad, secondLoad, firstFailure] < UInt64.size := by decide
  have ends : ((({} : Session).after [firstLoad, secondLoad]).stage firstFailure).Ends .load 0
      .superseded := ⟨_, _, _, _, rfl, rfl, rfl, rfl, rfl⟩
  have split : ({} : Session).stages [firstLoad, secondLoad, firstFailure] =
      ({} : Session).stages [firstLoad, secondLoad] ++
        (({} : Session).after [firstLoad, secondLoad]).stage firstFailure :: [] := rfl
  exact ⟨few, ends, superseded_iff_overtaken {} few split ends⟩

end Session

end SelectorTutorial
