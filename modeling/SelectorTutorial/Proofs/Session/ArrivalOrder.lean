import SelectorTutorial.Proofs.Session.CurrentResult
import SelectorTutorial.Proofs.Session.InFlight
import SelectorTutorial.Proofs.Session.Settling

/-! The order in which calls of one kind are answered does not matter. -/

namespace SelectorTutorial

namespace Session

/-- Whatever happens next of this kind, the calls stay in flight. -/
theorem InFlight.after_moment {s : Session} {errand : Errand} {answers : Answers} {first : UInt64}
    {count : Nat} (inFlight : s.InFlight errand answers first count) {m : Moment}
    (belongs : m.event.BelongsTo errand answers) (few : count + callsMade [m] < UInt64.size) :
    ∃ count' ≤ count + callsMade [m], (s.stage m).after.InFlight errand answers first count' :=
  -- What one stage does to the calls in flight is all that there is to it.
  Stage.inFlight_after (g := s.stage m) inFlight belongs few

/-- Calls on errands of one kind stay in flight over a whole run of them. -/
theorem InFlight.after_run {s : Session} {errand : Errand} {answers : Answers} {first : UInt64}
    {count : Nat} (inFlight : s.InFlight errand answers first count) {run : List Moment}
    (belong : ∀ m ∈ run, m.event.BelongsTo errand answers)
    (few : count + callsMade run < UInt64.size) :
    ∃ count' ≤ count + callsMade run, (s.after run).InFlight errand answers first count' := by
  -- Moment by moment, where each call takes up one number at most.
  induction run generalizing s count with
  | nil => exact ⟨count, Nat.le_refl _, inFlight⟩
  | cons m run ih =>
    have made : callsMade (m :: run) = callsMade [m] + callsMade run := callsMade_append [m] run
    obtain ⟨count', bound, inFlight⟩ :=
      inFlight.after_moment (belong m (List.mem_cons_self ..)) (by omega)
    obtain ⟨last, le, inFlight⟩ := ih inFlight
      (fun other member => belong other (List.mem_cons_of_mem m member)) (by omega)
    exact ⟨last, by omega, inFlight⟩

/-! ### The results of the calls -/

/-- In a run the call with some number comes to an end, with some result. -/
def EndsWith (s : Session) (run : List Moment) (number : Nat) (result : Result) : Prop :=
  ∃ g ∈ s.stages run, g.call? = some (number, .finished result)

/-- A call ends in a longer run when it ends in its first part or in the rest. -/
theorem endsWith_append {s : Session} {run rest : List Moment} {number : Nat} {result : Result} :
    s.EndsWith (run ++ rest) number result ↔
      s.EndsWith run number result ∨ (s.after run).EndsWith rest number result := by
  -- The stages of both parts are those of the whole.
  simp only [EndsWith, stages_append, List.mem_append, or_and_right, exists_or]

/-- A call waits, and will have some result once it is concluded. -/
def Promises (answers : Answers) (s : Session) (number : Nat) (result : Result) : Prop :=
  ∃ on, s.waiting? number = some on ∧ (s.visible.conclude answers on).2 = .finished result

/-- An answer ends a call with the result that was promised, and keeps every other promise. -/
theorem Stage.promises_before_iff {g : Stage} {errand : Errand} {answers : Answers} {first : UInt64}
    {count taken : Nat} (inFlight : g.before.InFlight errand answers first count)
    (arrived : g.event = .arrival taken answers) (number : Nat) (result : Result) :
    g.before.Promises answers number result ↔
      g.call? = some (number, .finished result) ∨ g.after.Promises answers number result := by
  -- By what the answer does, and by whether the promise is that of the call it answers.
  cases answered inFlight arrived with
  | stray unchanged untaken => simp [unchanged, untaken]
  | concluded waits _ holds seen _ came call =>
    by_cases own : taken = number
    · -- The call itself ends here.
      subst own
      simp [Promises, waits, came, waiting?_after, call, pending]
    · have still : g.after.waiting? number = g.before.waiting? number := by
        simp [waiting?_after, call, own]
      simp only [Promises, still, call, Option.some.injEq, Prod.mk.injEq, own, false_and,
        false_or]
      -- What another call comes to does not change with the conclusion of this one.
      refine exists_congr fun other => and_congr_right fun waits' => ?_
      obtain ⟨j, -, theirs⟩ := inFlight.numbered number other waits'
      rw [seen, conclude_comm answers _ holds theirs
        (inFlight.ne_of_ne waits waits' own holds theirs)]
  | goesOn waits _ _ seen _ same call =>
    -- No call ends here, and each comes to what it would have come to.
    simp only [call, Option.some.injEq, Prod.mk.injEq, reduceCtorEq, and_false, false_or]
    by_cases own : taken = number
    · subst own
      simp [Promises, waits, waiting?_after, call, pending, seen, same]
    · have still : g.after.waiting? number = g.before.waiting? number := by
        simp [waiting?_after, call, own]
      rw [Promises, Promises, still, seen]

/-- An answer adds no call. -/
theorem Stage.calls_length_after {g : Stage} {number : Nat} {answers : Answers}
    (arrived : g.event = .arrival number answers) :
    g.after.calls.length = g.before.calls.length := by
  -- The progress of a call is stored in its own place.
  cases waits : g.before.waiting? number with
  | none => rw [(of_stray arrived waits).1]
  | some on => simp [(of_arrival arrived waits).1]

/-- Answers alone start no call. -/
theorem callsMade_of_arrivals {run : List Moment}
    (arrive : ∀ m ∈ run, ∃ number answers, m.event = .arrival number answers) :
    callsMade run = 0 := by
  -- Only calls and edits are counted.
  refine List.countP_eq_zero.2 fun m member => ?_
  obtain ⟨number, answers, arrived⟩ := arrive m member
  simp [arrived, Event.isCall]

/-- Once all has been answered, all that was to be settled is seen, and every call has ended with
the result that it promised. -/
theorem InFlight.settles {s : Session} {errand : Errand} {answers : Answers} {first : UInt64}
    {count : Nat} (inFlight : s.InFlight errand answers first count) (few : count < UInt64.size)
    {replies : List Moment} (settles : s.Settles answers replies) :
    (s.after replies).visible = s.settled answers ∧
      (s.after replies).calls = List.replicate s.calls.length none ∧
      ∀ number result, s.EndsWith replies number result ↔ s.Promises answers number result := by
  -- Every answer keeps what is to be settled, and redeems a promise or keeps it.
  induction replies generalizing s count with
  | nil =>
    have idle : ∀ number, s.waiting? number = none := settles.idle
    exact ⟨(settled_of_idle answers idle).symm, calls_of_idle idle,
      by simp [EndsWith, Promises, idle]⟩
  | cons m rest ih =>
    obtain ⟨⟨number, arrived⟩, only⟩ := List.forall_mem_cons.1 settles.only
    have none : callsMade [m] = 0 := callsMade_of_arrivals (by simp [arrived])
    obtain ⟨count', bound, inFlight'⟩ :=
      inFlight.after_moment (m := m) (by rw [arrived]; rfl) (by omega)
    obtain ⟨seen, calls, results⟩ := ih inFlight' (by omega) ⟨only, settles.idle⟩
    refine ⟨?_, ?_, fun number result => ?_⟩
    · rw [after_cons, seen, Stage.settled_after (g := s.stage m) inFlight arrived]
      rfl
    · rw [after_cons, calls, Stage.calls_length_after (g := s.stage m) arrived]
      rfl
    · refine Iff.trans ?_ (Stage.promises_before_iff (g := s.stage m) inFlight arrived _ _).symm
      rw [← results]
      simp [EndsWith]

/-- Sessions that look the same differ at most in their times if the same calls wait. -/
theorem undated_eq_of_visible {s t : Session} (seen : s.visible = t.visible)
    (calls : s.calls = t.calls) : s.undated = t.undated := by
  -- What is seen is all but the calls.
  have parts (s : Session) : s.undated = { s.visible with calls := s.calls } := rfl
  rw [parts s, parts t, seen, calls]

/-- A stage is about the call that is new after it. -/
theorem Stage.isAbout_of_new {g : Stage} {number : Nat} (new : g.before.calls.length ≤ number)
    (started : number < g.after.calls.length) : g.IsAbout number := by
  -- By the event; only a call adds to the calls.
  cases event : g.event with
  | call call =>
    obtain ⟨after, taken⟩ := of_call event
    -- The only call that is added has the next number.
    have next : number = g.before.calls.length := by
      simp only [after, List.length_append, List.length_singleton] at started
      omega
    exact ⟨_, by rw [taken, next]⟩
  | edit edit =>
    rw [(of_edit event).1, edit_calls] at started
    exact absurd started (Nat.not_lt.2 new)
  | arrival taken answers =>
    rw [calls_length_after event] at started
    exact absurd started (Nat.not_lt.2 new)

/-- A call that is started in a run still waits at its end, or has come to an end in it. -/
theorem waits_or_ends {s : Session} {run : List Moment} {number : Nat}
    (unstarted : s.calls.length ≤ number) (started : number < (s.after run).calls.length) :
    (∃ on, (s.after run).waiting? number = some on) ∨ ∃ result, s.EndsWith run number result := by
  -- The last stage is about the call, or it is as it was.
  induction run using List.reverseRecOn with
  | nil => exact absurd started (Nat.not_lt.2 unstarted)
  | append_singleton run m ih =>
    simp only [after_append, after_cons, after_nil, endsWith_append] at started ⊢
    by_cases about : ((s.after run).stage m).IsAbout number
    · obtain ⟨progress, taken⟩ := about
      cases progress with
      | waiting on => exact .inl ⟨on, Stage.waiting?_after_of_call? taken⟩
      | finished result => exact .inr ⟨result, .inr ⟨_, by simp, taken⟩⟩
    · rw [Stage.waiting?_after_of_not_isAbout about]
      have before : number < (s.after run).calls.length :=
        Nat.lt_of_not_le fun new => about (Stage.isAbout_of_new new started)
      rcases ih before with waits | ⟨result, ends⟩
      · exact .inl waits
      · exact .inr ⟨result, .inl ends⟩

/-- The order in which calls of one kind are answered does not matter.  Nothing waits at first; then
calls on errands of one kind are started, with any edits of the pages between them, and some of them
may already be answered.  The backend always answers the same.  Then there is an order of answers
after which nothing waits any more, every call has come to an end then, and any two such orders
leave the same session, but for the times of its history, and the same result of every call. -/
theorem arrival_order_is_of_no_account {s : Session} (idle : ∀ number, s.waiting? number = none)
    {errand : Errand} {answers : Answers} {burst : List Moment}
    (belong : ∀ m ∈ burst, m.event.BelongsTo errand answers)
    (few : callsMade burst < UInt64.size) :
    (∃ replies, (s.after burst).Settles answers replies) ∧
    ∀ replies, (s.after burst).Settles answers replies →
      (∀ number, s.calls.length ≤ number → number < (s.after burst).calls.length →
        ∃ result, s.EndsWith (burst ++ replies) number result) ∧
      ∀ replies', (s.after burst).Settles answers replies' →
        (s.after (burst ++ replies')).undated = (s.after (burst ++ replies)).undated ∧
        ∀ number result, s.EndsWith (burst ++ replies') number result ↔
          s.EndsWith (burst ++ replies) number result := by
  -- All tickets of the burst differ, so what it comes to is settled as soon as it is over.
  obtain ⟨count, bound, inFlight⟩ :=
    (inFlight_of_idle idle errand answers).after_run belong (by omega)
  refine ⟨?_, fun replies settles =>
    ⟨fun number unstarted started => ?_, fun replies' settles' => ?_⟩⟩
  · obtain ⟨replies, only, idle⟩ := exists_replies (s.after burst) answers fun _ => False
    refine ⟨replies, fun m member => ?_, fun number => idle number id⟩
    obtain ⟨number, -, arrived⟩ := only m member
    exact ⟨number, arrived⟩
  · have longer := calls_length_le_after (s.after burst) replies
    rw [← after_append] at longer
    rcases waits_or_ends unstarted (Nat.lt_of_lt_of_le started longer) with ⟨on, waits⟩ | ends
    · rw [after_append, settles.idle] at waits
      cases waits
    · exact ends
  · -- What is seen at the end, and each result, is told by the session after the burst alone.
    obtain ⟨seen, calls, results⟩ := inFlight.settles (by omega) settles
    obtain ⟨seen', calls', results'⟩ := inFlight.settles (by omega) settles'
    refine ⟨?_, fun number result => ?_⟩
    · rw [after_append, after_append]
      refine undated_eq_of_visible (seen'.trans seen.symm) (calls'.trans calls.symm)
    · rw [endsWith_append, endsWith_append, results, results']

/-- A backend with one lesson, about a box, which does not know any other. -/
def libraryAnswers : Answers
  | .lessons => .ok [{ id := ⟨"extrude"⟩, title := "Extrude" }]
  | .lesson id =>
    if id = ⟨"extrude"⟩ then boxAnswers (.lesson id) else .error (.notFound id.text none)
  | call => boxAnswers call

/-- A lesson is asked for that is not there, and then one that is. -/
def hastyLoads : List Moment := [
  ⟨⟨0⟩, .call (.lesson (.load ⟨"gone"⟩))⟩, ⟨⟨1⟩, .call (.lesson (.load ⟨"extrude"⟩))⟩]

/-- Both calls are answered in the order in which they were started. -/
def inOrder : List Moment := [
  ⟨⟨2⟩, .arrival 0 libraryAnswers⟩, ⟨⟨3⟩, .arrival 0 libraryAnswers⟩,
  ⟨⟨4⟩, .arrival 1 libraryAnswers⟩, ⟨⟨5⟩, .arrival 1 libraryAnswers⟩]

/-- The second call is answered before the first one. -/
def outOfOrder : List Moment := [
  ⟨⟨2⟩, .arrival 1 libraryAnswers⟩, ⟨⟨3⟩, .arrival 1 libraryAnswers⟩,
  ⟨⟨4⟩, .arrival 0 libraryAnswers⟩, ⟨⟨5⟩, .arrival 0 libraryAnswers⟩]

/-- Two loads leave the same behind in whichever order they are answered. -/
theorem hasty_loads_in_any_order :
    (∀ number, ({} : Session).waiting? number = none) ∧
    (∀ m ∈ hastyLoads, m.event.BelongsTo .load libraryAnswers) ∧
    callsMade hastyLoads < UInt64.size ∧
    (({} : Session).after hastyLoads).Settles libraryAnswers inOrder ∧
    (({} : Session).after hastyLoads).Settles libraryAnswers outOfOrder ∧
    (({} : Session).after (hastyLoads ++ outOfOrder)).undated =
      (({} : Session).after (hastyLoads ++ inOrder)).undated := by
  -- The theorem is applied to the same loads with both orders of answers.
  have idle : ∀ number, ({} : Session).waiting? number = none := fun _ => rfl
  have belong : ∀ m ∈ hastyLoads, m.event.BelongsTo .load libraryAnswers := by
    simp [hastyLoads, Event.BelongsTo]
  have few : callsMade hastyLoads < UInt64.size := by decide
  have settles : (({} : Session).after hastyLoads).Settles libraryAnswers inOrder :=
    ⟨by simp [inOrder], idle_of_calls 2 rfl⟩
  have settles' : (({} : Session).after hastyLoads).Settles libraryAnswers outOfOrder :=
    ⟨by simp [outOfOrder], idle_of_calls 2 rfl⟩
  exact ⟨idle, belong, few, settles, settles',
    (((arrival_order_is_of_no_account idle belong few).2 _ settles).2 _ settles').1⟩

/-! ### Calls whose numbers come round again -/

/-- An answer is about no call but the one that it is for. -/
theorem Stage.not_isAbout_of_arrival {g : Stage} {number other : Nat} {answers : Answers}
    (arrived : g.event = .arrival number answers) (different : number ≠ other) :
    ¬ g.IsAbout other := by
  -- A stage is about the call that it starts or about the one that is answered.
  intro about
  rcases about.started_or_answered with ⟨call, called, -⟩ | ⟨answers', on, arrived', -⟩
  · simp [called] at arrived
  · rw [arrived] at arrived'
    cases arrived'
    exact different rfl

/-- A call waits on while others are answered. -/
theorem waiting?_of_spared {s : Session} {answers : Answers} {number : Nat} {replies : List Moment}
    (spare : ∀ m ∈ replies, ∃ other, ¬ other = number ∧ m.event = .arrival other answers) :
    (s.after replies).waiting? number = s.waiting? number := by
  -- Each of the stages is about another call.
  refine after_of_kept (P := fun t => t.waiting? number = s.waiting? number) rfl
    fun g member kept => ?_
  obtain ⟨other, different, arrived⟩ := spare _ (toMoment_mem member)
  rw [Stage.waiting?_after_of_not_isAbout (Stage.not_isAbout_of_arrival arrived different), kept]

/-- Calls on errands of one kind that have just been started threaten none of their kind. -/
theorem threats_after_burst {s : Session} (idle : ∀ number, s.waiting? number = none)
    {errand : Errand} {answers : Answers} {burst : List Moment}
    (belong : ∀ m ∈ burst, m.event.BelongsTo errand answers)
    (unanswered : ∀ m ∈ burst, ∀ number told, m.event ≠ .arrival number told) :
    (s.after burst).threats errand = 0 := by
  -- What threatens would wait, and what waits has just been started.
  refine List.countP_eq_zero.2 fun call member => ?_
  cases call with
  | none => simp
  | some on =>
    obtain ⟨number, place⟩ := List.getElem?_of_mem member
    have waits : (s.after burst).waiting? number = some on := by rw [waiting?, place]; rfl
    -- What the call waits for it was sent for with its first step.
    rcases exists_sent waits with ⟨waits, -⟩ | ⟨earlier, first, later, split, sent, -⟩
    · simp [idle] at waits
    · have part : first.toMoment ∈ burst := toMoment_mem (s := s) (by rw [split]; simp)
      rcases Stage.IsAbout.started_or_answered ⟨_, sent⟩ with ⟨call, called, -⟩ |
        ⟨told, old, arrived, -⟩
      · have starts := (Stage.starts_of_belongs called sent (belong _ part)).1
        simpa [pending] using Stage.not_threatens_of_starts starts sent
      · exact absurd arrived (unanswered _ part number told)

/-- The answer to a run whose ticket counts may be the last one, and is the result then. -/
theorem exists_replies_that_select {s : Session} {answers : Answers} {number : Nat}
    {reached : UInt64} {request : Selection.Request} {result : Selection.Result}
    (waits : s.waiting? number = some (Page.lesson.selecting ⟨.selection, reached⟩ request))
    (current : s.reached .lessonRun = reached) (unthreatened : s.threats .lessonRun = 0)
    (answered : answers (.select request) = .ok result) :
    ∃ replies, s.Settles answers replies ∧ (s.after replies).shared.result = some result := by
  obtain ⟨replies, only, idle⟩ := exists_replies s answers fun other => other = number
  -- All others are answered first, and no answer takes the number of the lane up.
  have made : callsMade replies = 0 := callsMade_of_arrivals fun m member => by
    obtain ⟨other, -, arrived⟩ := only m member
    exact ⟨other, answers, arrived⟩
  obtain ⟨count, still, -, bound⟩ := s.reached_after_run replies .lessonRun
  have none : count = 0 := by omega
  rw [none, current] at still
  have selects : ((s.after replies).stage ⟨.untold, .arrival number answers⟩).Selects .lesson
      request result :=
    ⟨number, answers, _, rfl, (waiting?_of_spared only).trans waits,
      (Tickets.isCurrent_iff ..).2 (still.trans (by simp)), answered⟩
  refine ⟨replies ++ [⟨.untold, .arrival number answers⟩], ⟨?_, fun other => ?_⟩, ?_⟩
  · intro m member
    rcases List.mem_append.1 member with before | last
    · obtain ⟨other, -, arrived⟩ := only m before
      exact ⟨other, arrived⟩
    · exact ⟨number, by rw [List.mem_singleton.1 last]⟩
  · rw [after_append, after_cons, after_nil]
    by_cases own : number = other
    · subst own
      obtain ⟨taken, ends⟩ := selects.ends
      obtain ⟨_, _, _, _, arrived, -⟩ := id ends
      cases arrived
      exact ends.gone
    · rw [Stage.waiting?_after_of_not_isAbout (Stage.not_isAbout_of_arrival rfl own)]
      exact idle other fun same => own same.symm
  · rw [after_append, after_cons, after_nil]
    exact selects.after.1

/-- Of two requests whose tickets count it is the one that is answered last that leaves its
result. -/
theorem exists_order_of_two {s : Session} {answers : Answers} {number number' : Nat}
    {reached : UInt64} {request request' : Selection.Request} {result result' : Selection.Result}
    (waits : s.waiting? number = some (Page.lesson.selecting ⟨.selection, reached⟩ request))
    (waits' : s.waiting? number' = some (Page.lesson.selecting ⟨.selection, reached⟩ request'))
    (current : s.reached .lessonRun = reached) (unthreatened : s.threats .lessonRun = 0)
    (answered : answers (.select request) = .ok result)
    (answered' : answers (.select request') = .ok result') (different : result ≠ result') :
    ∃ replies replies', s.Settles answers replies ∧ s.Settles answers replies' ∧
      (s.after replies').undated ≠ (s.after replies).undated := by
  -- If both orders left the same behind, both results would be the same.
  obtain ⟨replies, settles, last⟩ := exists_replies_that_select waits current unthreatened answered
  obtain ⟨replies', settles', last'⟩ :=
    exists_replies_that_select waits' current unthreatened answered'
  refine ⟨replies, replies', settles, settles', fun same => different ?_⟩
  have results :
      (s.after replies').undated.shared.result = (s.after replies).undated.shared.result := by
    rw [same]
  exact Option.some.inj (last.symm.trans (results.symm.trans last'))

/-- The lesson about the box is loaded. -/
def boxLoad : List Moment :=
  boxRun.take 3

/-- The lesson about the box is shown. -/
def boxShown : Session :=
  ({} : Session).after boxLoad

/-- Its selector is run, and another one is put into the editor. -/
def facesThenEdges : List Moment := [
  ⟨⟨3⟩, .call (.lesson .run)⟩, ⟨⟨4⟩, .edit (.setSelection "edges")⟩]

/-- The selector in the editor is run. -/
def nextRun : Moment :=
  ⟨⟨5⟩, .call (.lesson .run)⟩

/-- A run of the selector about edges waits for its result, and takes the number of its lane up. -/
theorem after_nextRun {s : Session} {model : Model} (has : s.lesson.model = some model)
    (typed : s.lesson.selection = "edges") :
    (s.stage nextRun).call? = some (s.calls.length, .waiting (Page.lesson.selecting
        ⟨.selection, s.reached .lessonRun + 1⟩ (.of model.id "edges" none))) ∧
      (s.stage nextRun).after.reached .lessonRun = s.reached .lessonRun + 1 := by
  -- The page has a model and a selector, so the run starts and asks.
  have trimmed : Text.trim "edges" = "edges" := by decide
  obtain ⟨after, taken⟩ := Stage.of_call (g := s.stage nextRun) rfl
  rw [after, taken]
  simp [stage, begin, LessonPage.start, LessonPage.startRun, has, typed, trimmed, withLesson,
    Progress.map, Page.selecting, reached, tickets, Errand.page, Errand.lane, Tickets.issue]

/-- The selector about faces is run, and then the one about edges so often that the numbers come
round again. -/
def crowdedRuns : List Moment :=
  facesThenEdges ++ (List.replicate (UInt64.size - 1) nextRun ++ [nextRun])

/-- All that happens is that runs are started, and once the editor is filled. -/
theorem mem_crowdedRuns {m : Moment} (member : m ∈ crowdedRuns) :
    m.event = .call (.lesson .run) ∨ m.event = .edit (.setSelection "edges") := by
  -- The runs at the front, the edit, the many runs, and the last one.
  simp only [crowdedRuns, facesThenEdges, List.mem_append, List.mem_cons, List.not_mem_nil,
    or_false, List.mem_replicate] at member
  rcases member with (rfl | rfl) | ⟨-, rfl⟩ | rfl <;> simp [nextRun]

/-- Once the numbers have come round again, the run about faces and the last one about edges wait
with the same ticket, and it counts. -/
theorem after_crowdedRuns : ∃ number,
    (boxShown.after crowdedRuns).waiting? 1 =
      some (Page.lesson.selecting ⟨.selection, 2⟩ (.of ⟨"box"⟩ "faces" none)) ∧
    (boxShown.after crowdedRuns).waiting? number =
      some (Page.lesson.selecting ⟨.selection, 2⟩ (.of ⟨"box"⟩ "edges" none)) ∧
    (boxShown.after crowdedRuns).reached .lessonRun = 2 := by
  -- The last run is started when the number before that of the first one has been reached.
  have has : (boxShown.after facesThenEdges).lesson.model =
      some { id := ⟨"box"⟩, meshUrl := "/box.glb" } := rfl
  obtain ⟨⟨shows, typed⟩, reached, others⟩ :=
    after_replicate_run nextRun.time (UInt64.size - 1) has (by decide)
  have faces := others 1 (Page.lesson.selecting ⟨.selection, 2⟩ (.of ⟨"box"⟩ "faces" none)) rfl
  rw [crowdedRuns, after_append, after_append, after_cons, after_nil]
  -- From here on the session before the last run is any one in which so much holds.
  rw [show (⟨nextRun.time, .call (.lesson .run)⟩ : Moment) = nextRun from rfl]
    at shows typed reached faces
  generalize (boxShown.after facesThenEdges).after (List.replicate (UInt64.size - 1) nextRun) = s
    at shows typed reached faces ⊢
  obtain ⟨asked, up⟩ := after_nextRun shows typed
  have again : s.reached .lessonRun + 1 = 2 := (congrArg (· + 1) reached).trans (by decide)
  rw [again] at asked up
  have others : ¬ (s.stage nextRun).IsAbout 1 := by
    rintro ⟨progress, taken⟩
    rw [asked, Option.some.injEq, Prod.mk.injEq] at taken
    exact absurd (lt_length_of_waiting faces) (Nat.not_lt.2 (Nat.le_of_eq taken.1))
  exact ⟨s.calls.length, (Stage.waiting?_after_of_not_isAbout others).trans faces,
    Stage.waiting?_after_of_call? asked, up⟩

/-- In a session that has come to rest so many runs may be started, before any answer arrives, that
the numbers come round again.  Then the first of them and the last one count both, and the one that
is answered last leaves its result. -/
theorem exists_order_of_account : ∃ start burst : List Moment,
    let s := ({} : Session).after start
    (∀ number, s.waiting? number = none) ∧
    (∀ m ∈ burst, m.event.BelongsTo .lessonRun boxAnswers) ∧
    (∀ m ∈ burst, ∀ number told, m.event ≠ .arrival number told) ∧
    ∃ replies replies', (s.after burst).Settles boxAnswers replies ∧
      (s.after burst).Settles boxAnswers replies' ∧
      (s.after (burst ++ replies')).undated ≠ (s.after (burst ++ replies)).undated := by
  -- The first run is about faces and the last one about edges, and both have the same ticket.
  have idle : ∀ number, boxShown.waiting? number = none := idle_of_calls 1 rfl
  have belong : ∀ m ∈ crowdedRuns, m.event.BelongsTo .lessonRun boxAnswers := by
    intro m member
    rcases mem_crowdedRuns member with called | edited
    · rw [called]
      rfl
    · rw [edited]
      trivial
  have unanswered : ∀ m ∈ crowdedRuns, ∀ number told, m.event ≠ .arrival number told := by
    intro m member number told arrived
    rcases mem_crowdedRuns member with happens | happens <;> simp [happens] at arrived
  have unthreatened := threats_after_burst idle belong unanswered
  obtain ⟨number, faces, edges, counts⟩ := after_crowdedRuns
  refine ⟨boxLoad, crowdedRuns, idle, belong, unanswered, ?_⟩
  simp only [after_append]
  exact exists_order_of_two faces edges counts unthreatened rfl rfl (by decide)

end Session

end SelectorTutorial
