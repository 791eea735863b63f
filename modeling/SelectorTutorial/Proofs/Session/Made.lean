import SelectorTutorial.Proofs.Session.Held

/-! The calls that were made in a run, and what each of them may wait for. -/

namespace SelectorTutorial

/-- The errand that a call of the lesson page is made for. -/
def LessonPage.Call.errand? : LessonPage.Call → Option Errand
  | load _ => some .load
  | run => some .lessonRun
  | press key => if key.shortcut = some .runSelection then some .lessonRun else none
  -- To find the way is no errand.
  | resolveRoute _ => none

/-- What runs the selector of the lesson page is made for that errand. -/
theorem LessonPage.Call.errand?_eq_lessonRun_iff {call : LessonPage.Call} :
    call.errand? = some .lessonRun ↔ call.Runs := by
  -- By the calls: the button and the key run the selector.
  cases call <;> simp [errand?, Runs]

/-- The errand that a call of the playground is made for. -/
def Playground.Call.errand? : Playground.Call → Option Errand
  | compile => some .compile
  | run => some .playgroundRun
  | prepare => none

namespace Session

/-- The errand that a call is made for. -/
def Call.errand? : Call → Option Errand
  | lesson call => call.errand?
  | playground call => call.errand?
  | ensureLessons => none
  | ensureCatalog => none

/-- What is made to load a lesson is a load of that lesson. -/
theorem Call.exists_load {call : Call} (made : call.errand? = some .load) :
    ∃ id, call = .lesson (.load id) := by
  -- By the calls: no other one is made for a load.
  cases call with
  | ensureLessons | ensureCatalog => cases made
  | playground call => cases call <;> cases made
  | lesson call =>
    cases call with
    | load id => exact ⟨id, rfl⟩
    | resolveRoute | run => cases made
    | press key => simp [errand?, LessonPage.Call.errand?] at made

/-- What a call may wait for, by what it was made for. -/
inductive Call.Awaits : Call → Waiting → Prop
  /-- The lessons are wanted at hand. -/
  | lessons : Awaits .ensureLessons .lessons
  /-- Both lists are. -/
  | catalog {on} : Awaits .ensureCatalog (.catalog on)
  /-- The first lesson is looked for. -/
  | route : Awaits (.lesson (.resolveRoute none)) (.lesson .route)
  /-- A lesson is loaded, in one or more requests. -/
  | load {id ticket} {on : LessonPage.Waiting} (holds : on.held? = some (.load, ticket)) :
      Awaits (.lesson (.load id)) (.lesson on)
  /-- The selector of the lesson page is run. -/
  | lessonRun {call : LessonPage.Call} {ticket request} (runs : call.Runs) :
      Awaits (.lesson call) (.lesson (.selection ticket request))
  /-- The playground is prepared. -/
  | prepare {on} : Awaits (.playground .prepare) (.playground (.catalog on))
  /-- What was put in there is compiled. -/
  | compile {ticket source} : Awaits (.playground .compile) (.playground (.compile ticket source))
  /-- The selector of the playground is run. -/
  | playgroundRun {ticket request} :
      Awaits (.playground .run) (.playground (.selection ticket request))

/-- A call that waits is on the errand that it was made for, if it was made for one. -/
theorem Call.Awaits.errand?_eq {call : Call} {on : Waiting} (awaits : call.Awaits on) :
    on.held?.map Prod.fst = call.errand? := by
  -- By what a call may wait for: its ticket is for the errand that it was made for.
  cases awaits with
  | load holds => simp [Waiting.held?, holds, errand?, LessonPage.Call.errand?]
  | lessonRun runs => exact (LessonPage.Call.errand?_eq_lessonRun_iff.2 runs).symm
  | lessons | catalog | route | prepare | compile | playgroundRun => rfl

/-- A call waits first for something that it may wait for. -/
theorem awaits_of_begin {now : Timestamp} {s : Session} {call : Call} {on : Waiting}
    (begun : (s.begin now call).2 = .waiting on) : call.Awaits on := by
  -- Each page tells by its own calls what they begin with.
  cases call with
  | ensureLessons =>
    simp only [begin] at begun
    split at begun <;> cases begun
    exact .lessons
  | ensureCatalog =>
    obtain ⟨list, -, rfl⟩ := Progress.map_eq_waiting.1 begun
    exact .catalog
  | lesson call =>
    obtain ⟨mine, waits, rfl⟩ := Progress.map_eq_waiting.1 begun
    have begins := LessonPage.start_begins now s.lesson s.shared call
    generalize s.lesson.start now s.shared call = step at begins waits
    cases begins with
    | asked => cases waits; exact .route
    | loads => cases waits; exact .load rfl
    | runs runs => cases waits; exact .lessonRun runs
    | routed | skipped | toggled | unbound => cases waits
  | playground call =>
    obtain ⟨mine, waits, rfl⟩ := Progress.map_eq_waiting.1 begun
    have begins := Playground.start_begins s.playground s.shared call
    generalize s.playground.start s.shared call = step at begins waits
    cases begins with
    | asked => cases waits; exact .prepare
    | compiles => cases waits; exact .compile
    | runs => cases waits; exact .playgroundRun
    | prepared | skipped | unsupported | unreadable => cases waits

/-- A call that was answered waits next for something that it may wait for. -/
theorem Call.Awaits.of_goOn {now : Timestamp} {answers : Answers} {s : Session} {call : Call}
    {on next : Waiting} (awaits : call.Awaits on)
    (goes : (s.goOn now answers on).2 = .waiting next) : call.Awaits next := by
  -- Only the lists and a load take more than one request.
  cases on with
  | lessons =>
    simp only [goOn] at goes
    split at goes <;> cases goes
  | catalog on =>
    obtain ⟨list, -, rfl⟩ := Progress.map_eq_waiting.1 goes
    cases awaits
    exact .catalog
  | lesson on =>
    obtain ⟨mine, waits, rfl⟩ := Progress.map_eq_waiting.1 goes
    have goesOn := LessonPage.resume_goesOn now answers s.lesson s.shared on
    generalize s.lesson.resume now answers s.shared on = step at goesOn waits
    cases goesOn with
    | fetched => cases waits; cases awaits; exact .load rfl
    | seeks holds =>
      cases waits
      cases awaits with
      | load => exact .load rfl
      | route | lessonRun => cases holds
    | found | lost | applied | failed | selected | refused | late => cases waits
  | playground on =>
    obtain ⟨mine, waits, rfl⟩ := Progress.map_eq_waiting.1 goes
    have goesOn := Playground.resume_goesOn now answers s.playground s.shared on
    generalize s.playground.resume now answers s.shared on = step at goesOn waits
    cases goesOn with
    | asked => cases waits; cases awaits; exact .prepare
    | prepared | applied | failed | selected | refused | late => cases waits

/-- The call that is made at an event. -/
def Event.call? : Event → Option Call
  | .call made => some made
  | .edit _ => none
  | .arrival _ _ => none

/-- The calls that are made in a run, in their order. -/
def madeIn (run : List Moment) : List Call :=
  run.filterMap (·.event.call?)

/-- In an empty run no call is made. -/
@[simp] theorem madeIn_nil : madeIn [] = [] := rfl

/-- The calls of a run are made one after the other. -/
theorem madeIn_cons (m : Moment) (run : List Moment) :
    madeIn (m :: run) = m.event.call?.toList ++ madeIn run := by
  -- The first moment makes one call or none.
  rw [madeIn, List.filterMap_cons]
  cases m.event.call? <;> rfl

/-- The calls of two runs are made one run after the other. -/
@[simp] theorem madeIn_append (run rest : List Moment) :
    madeIn (run ++ rest) = madeIn run ++ madeIn rest :=
  List.filterMap_append

/-- Calls that are made later do not move one that was made before. -/
theorem getElem?_append_of_made {made : List Call} {number : Nat} {call : Call}
    (place : made[number]? = some call) (later : List Call) :
    (made ++ later)[number]? = some call := by
  -- Its place lies within those made before.
  have inside : number < made.length := (List.getElem?_eq_some_iff.1 place).1
  rw [List.getElem?_append_left inside, place]

/-- The calls of a session are those that were made, and each waits for something that it may wait
for. -/
structure Tallies (s : Session) (made : List Call) : Prop where
  /-- Each call that was made has its place. -/
  length_eq : made.length = s.calls.length
  /-- What waits in a place belongs to the call that was made there. -/
  awaits : ∀ number on, s.waiting? number = some on →
    ∃ call, made[number]? = some call ∧ call.Awaits on

/-- Where no call was made the session has none. -/
theorem tallies_of_idle {s : Session} (idle : s.calls = []) : s.Tallies [] where
  -- There is no call to tell anything of.
  length_eq := by rw [idle]; rfl
  awaits number on waits := by simp [waiting?, idle] at waits

/-- A stage adds the call that it makes, if it makes one. -/
theorem Stage.tallies_after {g : Stage} {made : List Call} (tallies : g.before.Tallies made) :
    g.after.Tallies (made ++ g.event.call?.toList) := by
  -- A call that is made gets the next place, and one that is answered keeps its own.
  cases event : g.event with
  | call call =>
    obtain ⟨after, taken⟩ := of_call event
    refine ⟨by simp [after, Event.call?, tallies.length_eq], fun number on waits => ?_⟩
    rcases waits_after waits with ⟨waits, -⟩ | ⟨_, -, rfl, begun⟩ | ⟨_, _, arrived, -⟩
    · obtain ⟨call, place, awaits⟩ := tallies.awaits number on waits
      exact ⟨call, getElem?_append_of_made place _, awaits⟩
    · rw [taken, Option.some.injEq, Prod.mk.injEq] at begun
      refine ⟨call, ?_, awaits_of_begin begun.2⟩
      rw [← tallies.length_eq]
      exact List.getElem?_concat_length
    · simp [event] at arrived
  | edit edit =>
    obtain ⟨after, -⟩ := of_edit event
    rw [after]
    exact ⟨by simp [Event.call?, tallies.length_eq], by
      simpa [Event.call?, waiting?] using tallies.awaits⟩
  | arrival taken answers =>
    simp only [Event.call?, Option.toList_none, List.append_nil]
    cases waited : g.before.waiting? taken with
    | none => rwa [(of_stray event waited).1]
    | some old =>
      obtain ⟨after, step⟩ := of_arrival event waited
      refine ⟨by simp [after, tallies.length_eq], fun number on waits => ?_⟩
      rcases waits_after waits with ⟨waits, -⟩ | ⟨_, called, -⟩ | ⟨_, old', arrived, waits, goes⟩
      · exact tallies.awaits number on waits
      · simp [event] at called
      · obtain ⟨call, place, awaits⟩ := tallies.awaits number old' waits
        rw [event] at arrived
        cases arrived
        obtain rfl := Option.some.inj (waited.symm.trans waits)
        rw [step, Option.some.injEq, Prod.mk.injEq] at goes
        exact ⟨call, place, awaits.of_goOn goes.2⟩

/-- The calls at the end of a run are those that were there at first and those made in it. -/
theorem Tallies.after {s : Session} {made : List Call} (tallies : s.Tallies made)
    (run : List Moment) : (s.after run).Tallies (made ++ madeIn run) := by
  -- The induction follows the run, and each stage adds its call to those that were made before.
  induction run generalizing s made with
  | nil => simpa using tallies
  | cons m run ih =>
    rw [madeIn_cons, ← List.append_assoc]
    exact ih (Stage.tallies_after (g := s.stage m) tallies)

/-- A stage is about the call that it makes, or about one that was made before and waits. -/
theorem Tallies.made_of_isAbout {g : Stage} {made : List Call} (tallies : g.before.Tallies made)
    {number : Nat} (about : g.IsAbout number) :
    (∃ call, g.event = .call call ∧ (made ++ g.event.call?.toList)[number]? = some call) ∨
      ∃ answers on call, g.event = .arrival number answers ∧ g.before.waiting? number = some on ∧
        (made ++ g.event.call?.toList)[number]? = some call ∧ call.Awaits on := by
  -- A call that starts has the next place; one that is answered has the place where it was noted.
  rcases about.started_or_answered with ⟨call, called, rfl⟩ | ⟨answers, on, arrived, waits⟩
  · refine .inl ⟨call, called, ?_⟩
    rw [called, ← tallies.length_eq]
    exact List.getElem?_concat_length
  · obtain ⟨call, place, awaits⟩ := tallies.awaits number on waits
    exact .inr ⟨answers, on, call, arrived, waits, getElem?_append_of_made place _, awaits⟩

/-- A stage of a run that is about a call makes that call, or answers what the call may wait for. -/
theorem made_of_mem {s : Session} (idle : s.calls = []) {run : List Moment} {g : Stage}
    (member : g ∈ s.stages run) {number : Nat} (about : g.IsAbout number) {call : Call}
    (made : (madeIn run)[number]? = some call) :
    g.event = .call call ∨ ∃ answers on, g.event = .arrival number answers ∧
      g.before.waiting? number = some on ∧ call.Awaits on := by
  -- The run is split at the stage, up to which the tally says where each call stands.
  obtain ⟨first, m, rest, rfl, rfl⟩ := mem_stages member
  have tallies := (tallies_of_idle idle).after first
  have same {other : Call} (place : (madeIn first ++ m.event.call?.toList)[number]? = some other) :
      other = call := by
    rw [madeIn_append, madeIn_cons, ← List.append_assoc, getElem?_append_of_made place] at made
    exact Option.some.inj made
  rcases tallies.made_of_isAbout about with
    ⟨other, called, place⟩ | ⟨answers, on, other, arrived, waits, place, awaits⟩
  · exact .inl (same place ▸ called)
  · exact .inr ⟨answers, on, arrived, waits, same place ▸ awaits⟩

end Session

end SelectorTutorial
