import SelectorTutorial.Proofs.Session.Made
import SelectorTutorial.Proofs.Session.Message
import SelectorTutorial.Proofs.Session.Panel
import SelectorTutorial.Proofs.Session.Settling

/-! What guards a run of a selector and a compilation, and how little comes of a call that is turned
down. -/

namespace SelectorTutorial

namespace Playground

variable {page : Playground}

/-- No file is turned down just when what is to be compiled is no file of the wrong kind. -/
theorem faultOfFile?_eq_none_iff : page.faultOfFile? = none ↔
    ∀ file, page.form.modelSource? = some (.upload file) → file.isSupported = true := by
  -- There is a fault just where there is a file of the wrong kind.
  constructor
  · intro faultless file chosen
    by_contra wrong
    have fault := faultOfFile?_eq_some_iff.2 ⟨file, chosen, by simpa using wrong, rfl⟩
    cases faultless.symm.trans fault
  · intro suited
    rw [Option.eq_none_iff_forall_ne_some]
    intro message fault
    obtain ⟨file, chosen, wrong, -⟩ := faultOfFile?_eq_some_iff.1 fault
    cases wrong.symm.trans (suited file chosen)

/-- No bound is turned down just when there is no model, or no selector, or each bound is a
number. -/
theorem faultOfBounds?_eq_none_iff : page.faultOfBounds? = none ↔
    page.model = none ∨ Text.trim page.form.selection = "" ∨
      ∃ filters, page.form.filters.filters? = .ok filters := by
  -- The bounds are looked at last, when there is a model and a selector to run.
  unfold faultOfBounds?
  cases page.model with
  | none => simp
  | some model => cases page.form.filters.filters? <;> simp

end Playground

namespace Session

/-- A session in which the panel that tells of an errand is another one. -/
def withPanel (s : Session) (errand : Errand) (panel : Panel) : Session :=
  match errand with
  | .load => { s with lesson := { s.lesson with status := panel } }
  | .lessonRun => { s with lesson := { s.lesson with selectionStatus := panel } }
  | .compile => { s with playground := { s.playground with compileStatus := panel } }
  | .playgroundRun => { s with playground := { s.playground with selectionStatus := panel } }

namespace Stage

/-- What a stage asks the backend for on behalf of the call with some number. -/
def request? (g : Stage) (number : Nat) : Option BackendCall :=
  match g.call? with
  | some (taken, .waiting on) => if taken = number then some on.call else none
  | _ => none

/-- What a stage asks for is what the call waits for from then on. -/
theorem request?_eq_some_iff {g : Stage} {number : Nat} {request : BackendCall} :
    g.request? number = some request ↔ g.Requests number request := by
  -- Both look at what the stage leaves waiting, and under which number.
  rw [request?, Requests]
  split
  · next taken on step =>
    rw [step]
    by_cases same : taken = number
    · simp [same]
    · simp [same]
  · next other =>
    constructor
    · nofun
    · rintro ⟨on, step, -⟩
      exact absurd step (other number on)

end Stage

/-- What the backend is asked for in the stages of a run on behalf of the call with some number. -/
def askedFor (number : Nat) (stages : List Stage) : List BackendCall :=
  stages.filterMap (·.request? number)

/-- What is asked for in a run is asked for at its first stage, or later. -/
theorem askedFor_cons (number : Nat) (g : Stage) (stages : List Stage) :
    askedFor number (g :: stages) = (g.request? number).toList ++ askedFor number stages := by
  -- The first stage asks for one thing or for none.
  rw [askedFor, List.filterMap_cons]
  cases g.request? number <;> rfl

/-! ### Calls that ask for nothing any more -/

/-- The call with some number will ask for nothing any more: it has ended, or waits for its last
answer. -/
structure IsSpent (s : Session) (number : Nat) : Prop where
  /-- The call was made. -/
  made : number < s.calls.length
  /-- What it waits for is the last thing that it will wait for. -/
  last : ∀ on, s.waiting? number = some on → on.left = 1

/-- A call that will ask for nothing asks for nothing, and still will not. -/
theorem IsSpent.after {g : Stage} {number : Nat} (spent : g.before.IsSpent number) :
    g.request? number = none ∧ g.after.IsSpent number := by
  have made := Nat.lt_of_lt_of_le spent.made g.calls_length_le
  by_cases about : g.IsAbout number
  · -- The last answer has arrived, and there is nothing left to wait for.
    obtain ⟨answers, on, arrived, waits⟩ := about.arrival spent.made
    have taken := (Stage.of_arrival arrived waits).2
    cases goes : (g.before.goOn g.time answers on).2 with
    | waiting next =>
      have fewer := left_lt_of_goOn goes
      have some := next.left_pos
      have last := spent.last on waits
      omega
    | finished result =>
      rw [goes] at taken
      refine ⟨by simp [Stage.request?, taken], made, fun on waits => ?_⟩
      rw [Stage.waiting?_after_of_call? taken] at waits
      cases waits
  · refine ⟨?_, made, fun on waits => ?_⟩
    · rw [Option.eq_none_iff_forall_ne_some]
      intro request asks
      obtain ⟨on, taken, -⟩ := Stage.request?_eq_some_iff.1 asks
      exact about ⟨_, taken⟩
    · rw [Stage.waiting?_after_of_not_isAbout about] at waits
      exact spent.last on waits

/-- A call that will ask for nothing asks for nothing in any run. -/
theorem IsSpent.askedFor_eq {s : Session} {number : Nat} (spent : s.IsSpent number)
    (run : List Moment) : askedFor number (s.stages run) = [] := by
  -- Each stage asks for nothing and hands that on to the next one.
  induction run generalizing s with
  | nil => rfl
  | cons m run ih =>
    obtain ⟨none, spent⟩ := IsSpent.after (g := s.stage m) spent
    rw [stages_cons, askedFor_cons, none]
    exact ih spent

namespace Stage

/-- A call that ends will ask for nothing any more. -/
theorem isSpent_of_finished {g : Stage} {number : Nat} {result : Result}
    (taken : g.call? = some (number, .finished result)) : g.after.IsSpent number := by
  -- It waits for nothing.
  refine ⟨IsAbout.lt_length ⟨_, taken⟩, fun on waits => ?_⟩
  rw [waiting?_after_of_call? taken] at waits
  cases waits

/-- A call that waits for its last answer will ask for nothing any more. -/
theorem isSpent_of_waiting {g : Stage} {number : Nat} {on : Waiting}
    (taken : g.call? = some (number, .waiting on)) (last : on.left = 1) :
    g.after.IsSpent number := by
  -- It waits for one answer, after which nothing is left.
  refine ⟨IsAbout.lt_length ⟨_, taken⟩, fun on' waits => ?_⟩
  rw [waiting?_after_of_call? taken] at waits
  cases waits
  exact last

/-! ### The first step -/

/-- After the first step of a call of the lesson page the session is the one before it, but for that
page, what is shared, and the call. -/
theorem TakesLesson.after_eq {g : Stage} {number : Nat} {call : Call} {step : LessonPage.Step}
    (takes : g.TakesLesson number step) (called : g.event = .call call) :
    g.after = {
      lesson := step.page
      shared := step.shared
      playground := g.before.playground
      calls := g.before.calls ++ [pending (step.progress.map .lesson .lesson)] } := by
  -- The step tells all of it but the list of calls, and there the call has been added.
  obtain ⟨after, taken⟩ := of_call called
  obtain ⟨-, same⟩ := Prod.mk.inj (Option.some.inj (taken.symm.trans takes.taken))
  have calls := congrArg Session.calls after
  rw [same] at calls
  rw [← takes.lesson, ← takes.shared, ← takes.playground]
  exact congrArg (fun calls => { g.after with calls }) calls

/-- After the first step of a call of the playground the session is the one before it, but for that
page, what is shared, and the call. -/
theorem TakesPlayground.after_eq {g : Stage} {number : Nat} {call : Call} {step : Playground.Step}
    (takes : g.TakesPlayground number step) (called : g.event = .call call) :
    g.after = {
      lesson := g.before.lesson
      shared := step.shared
      playground := step.page
      calls := g.before.calls ++ [pending (step.progress.map .playground .playground)] } := by
  -- As on the lesson page.
  obtain ⟨after, taken⟩ := of_call called
  obtain ⟨-, same⟩ := Prod.mk.inj (Option.some.inj (taken.symm.trans takes.taken))
  have calls := congrArg Session.calls after
  rw [same] at calls
  rw [← takes.lesson, ← takes.shared, ← takes.playground]
  exact congrArg (fun calls => { g.after with calls }) calls

/-- All that can come at once of a call that is made for a run or a compilation. -/
inductive Outset (g : Stage) (errand : Errand) : Prop
  /-- There is nothing to do, and nothing is done. -/
  | skips {result} (taken : g.call? = some (g.before.calls.length, .finished result))
      (came : result.outcome? = some .skipped) (uncomplained : g.complaint? errand = none)
      (after : g.after = { g.before with calls := g.before.calls ++ [none] })
  /-- What was put in is turned down, which the panel of the errand shows. -/
  | refuses {result message} (taken : g.call? = some (g.before.calls.length, .finished result))
      (came : result.outcome? = some (.failed message))
      (complained : g.complaint? errand = some message)
      (after : g.after = { g.before.withPanel errand { error := some message } with
        calls := g.before.calls ++ [none] })
  /-- The backend is asked, under a new ticket, and will be asked just this once. -/
  | asks {on} (taken : g.call? = some (g.before.calls.length, .waiting on)) (last : on.left = 1)
      (holds : on.held? =
        some (errand, ((g.before.tickets errand.page).issue errand.lane).1))
      (uncomplained : g.complaint? errand = none)
      (tickets : g.after.tickets errand.page =
        ((g.before.tickets errand.page).issue errand.lane).2)
      (others : ∀ page, page ≠ errand.page → g.after.tickets page = g.before.tickets page)

/-- A call to compile something is turned down for the file. -/
theorem complaint?_compile {g : Stage} (called : g.event = .call (.playground .compile)) :
    g.complaint? .compile = g.before.playground.faultOfFile? := by
  -- This is the case of compilations in what is complained of.
  simp only [complaint?, called]

/-- A call to run the selector of the playground is turned down for a bound. -/
theorem complaint?_playgroundRun {g : Stage} (called : g.event = .call (.playground .run)) :
    g.complaint? .playgroundRun = g.before.playground.faultOfBounds? := by
  -- This is the case of runs on the playground in what is complained of.
  simp only [complaint?, called]

/-- A call to run the selector of a lesson is skipped, or asks the backend. -/
theorem outset_of_lesson {g : Stage} {call : LessonPage.Call} {errand : Errand}
    (called : g.event = .call (.lesson call)) (made : call.errand? = some errand)
    (unloading : errand ≠ .load) : g.Outset errand := by
  -- By what the call does first.
  obtain ⟨step, begins, takes⟩ := begins_of_lesson called
  have after := takes.after_eq called
  cases begins with
  | skipped runs lacking =>
    cases made.symm.trans (LessonPage.Call.errand?_eq_lessonRun_iff.2 runs)
    exact .skips takes.taken rfl rfl after
  | runs runs =>
    cases made.symm.trans (LessonPage.Call.errand?_eq_lessonRun_iff.2 runs)
    exact .asks takes.taken rfl rfl rfl (by rw [after]; rfl) fun _ => takes.tickets_of_ne
  | loads =>
    cases made
    exact absurd rfl unloading
  -- The other calls are made for no errand.
  | routed | asked => cases made
  | toggled bound => simp [LessonPage.Call.errand?, bound] at made
  | unbound unbound => simp [LessonPage.Call.errand?, unbound] at made

/-- A call to compile or to run the selector on the playground is skipped, is turned down for what
was put in, or asks the backend. -/
theorem outset_of_playground {g : Stage} {call : Playground.Call} {errand : Errand}
    (called : g.event = .call (.playground call)) (made : call.errand? = some errand) :
    g.Outset errand := by
  -- By the ways a call of the playground begins; each goes with what is said of files or of bounds.
  obtain ⟨step, begins, takes⟩ := begins_of_playground called
  have after := takes.after_eq called
  cases begins with
  | asked | prepared => cases made
  | skipped lacking =>
    refine .skips takes.taken rfl ?_ after
    obtain ⟨rfl, none⟩ | ⟨rfl, lacking⟩ := lacking
    · cases made
      rw [complaint?_compile called, Playground.faultOfFile?_eq_none_iff]
      simp [none]
    · cases made
      rw [complaint?_playgroundRun called, Playground.faultOfBounds?_eq_none_iff, ← or_assoc]
      exact .inl lacking
  | unsupported chosen wrong =>
    cases made
    refine .refuses takes.taken rfl ?_ after
    rw [complaint?_compile called]
    exact Playground.faultOfFile?_eq_some_iff.2 ⟨_, chosen, wrong, rfl⟩
  | unreadable has typed faulty =>
    cases made
    refine .refuses takes.taken rfl ?_ after
    rw [complaint?_playgroundRun called]
    exact Playground.faultOfBounds?_eq_some_iff.2 ⟨_, _, has, typed, faulty, rfl⟩
  | compiles chosen suited =>
    cases made
    refine .asks takes.taken rfl rfl ?_ (by rw [after]; rfl) fun _ => takes.tickets_of_ne
    rw [complaint?_compile called, Playground.faultOfFile?_eq_none_iff]
    exact fun file same => suited file (Option.some.inj (chosen.symm.trans same))
  | runs has typed read =>
    cases made
    refine .asks takes.taken rfl rfl ?_ (by rw [after]; rfl) fun _ => takes.tickets_of_ne
    rw [complaint?_playgroundRun called, Playground.faultOfBounds?_eq_none_iff]
    exact .inr (.inr ⟨_, read⟩)

/-- A call that is made for a run or a compilation does one of these things at once. -/
theorem outset {g : Stage} {call : Call} {errand : Errand} (called : g.event = .call call)
    (made : call.errand? = some errand) (unloading : errand ≠ .load) : g.Outset errand := by
  -- Calls that only fetch lists are on no errand; the others belong to one of the two pages.
  cases call with
  | ensureLessons | ensureCatalog => cases made
  | lesson call => exact outset_of_lesson called made unloading
  | playground call => exact outset_of_playground called made

/-- A call is skipped at its first step or never. -/
theorem not_skipped_of_arrival {g : Stage} {number taken : Nat} {answers : Answers}
    (arrived : g.event = .arrival taken answers) : ¬ g.ComesTo number .skipped := by
  -- By what waits for the answer; none of its later steps comes to be skipped.
  intro skipped
  cases waits : g.before.waiting? taken with
  | none =>
    obtain ⟨result, finished, -⟩ := skipped
    rw [(of_stray arrived waits).2] at finished
    cases finished
  | some on =>
    have step := (of_arrival arrived waits).2
    cases on with
    | lesson on =>
      obtain ⟨step, goesOn, takes⟩ := goesOn_of_lesson arrived waits
      obtain ⟨-, result, finished, came⟩ := skipped.of_map takes.taken
      cases goesOn with
      | late _ _ _ dropped =>
        cases finished
        cases dropped.symm.trans came
      | found | lost | fetched | seeks | applied | failed | selected | refused =>
        cases finished <;> cases came
    | playground on =>
      obtain ⟨step, goesOn, takes⟩ := goesOn_of_playground arrived waits
      obtain ⟨-, result, finished, came⟩ := skipped.of_map takes.taken
      cases goesOn <;> cases finished <;> cases came
    -- To fetch the lists comes to no outcome of its own.
    | catalog on =>
      obtain ⟨-, status, -, came⟩ := skipped.of_map step
      cases came
    | lessons =>
      obtain ⟨result, finished, came⟩ := skipped
      rw [step] at finished
      simp only [goOn] at finished
      split at finished <;> cases finished <;> cases came

/-- A call comes to one outcome. -/
theorem ComesTo.outcome_eq {g : Stage} {number : Nat} {outcome : Outcome} {result : Result}
    (comes : g.ComesTo number outcome) (taken : g.call? = some (number, .finished result)) :
    result.outcome? = some outcome := by
  -- A stage finishes a call with one result.
  obtain ⟨_, finished, came⟩ := comes
  cases taken.symm.trans finished
  exact came

/-- A call that waits has come to no outcome yet. -/
theorem not_comesTo_of_waiting {g : Stage} {number : Nat} {on : Waiting}
    (taken : g.call? = some (number, .waiting on)) (outcome : Outcome) :
    ¬ g.ComesTo number outcome := by
  -- It would have to be finished.
  rintro ⟨_, finished, -⟩
  cases taken.symm.trans finished

end Stage

/-- A call that is skipped is skipped at the stage that makes it. -/
theorem skipped_at_once {s : Session} {m : Moment} {call : Call} {run : List Moment} {last : Stage}
    (called : m.event = .call call) (member : last ∈ s.stages (m :: run))
    (skipped : last.ComesTo s.calls.length .skipped) :
    (s.stage m).ComesTo s.calls.length .skipped := by
  -- The stage is the first one or a later one.
  rw [stages_cons, List.mem_cons] at member
  obtain rfl | later := member
  · exact skipped
  · -- Later on an answer would have to skip it.
    obtain ⟨first, next, rest, rfl, rfl⟩ := mem_stages later
    have made : s.calls.length < (s.stage m).after.calls.length :=
      Stage.IsAbout.lt_length ⟨_, (Stage.of_call called).2⟩
    have longer := calls_length_le_after (s.stage m).after first
    obtain ⟨result, taken, -⟩ := id skipped
    obtain ⟨answers, on, arrived, -⟩ :=
      Stage.IsAbout.arrival ⟨_, taken⟩ (Nat.lt_of_lt_of_le made longer)
    exact absurd skipped (Stage.not_skipped_of_arrival arrived)

/-- Whatever else is in flight, a call to run a selector or to compile something that is skipped,
now or at any later time, asks the backend for nothing and leaves both pages with all their tickets
as they are, and what is shared too.  It fails at once just when the file is of the wrong kind or a
bound is no number; then it asks for nothing either, and nothing changes but the one panel that
tells of it.  In all other cases it takes one new ticket in its own lane at once, and asks the
backend for one thing, at once and never again. -/
theorem guarded_call_disturbs_nothing (s : Session) (now : Timestamp) {call : Call}
    {errand : Errand} (made : call.errand? = some errand) (unloading : errand ≠ .load)
    (run : List Moment) :
    let number := s.calls.length
    let first := s.stage ⟨now, .call call⟩
    let stages := s.stages (⟨now, .call call⟩ :: run)
    ((∃ last ∈ stages, last.ComesTo number .skipped) →
      first.after = { s with calls := s.calls ++ [none] } ∧ askedFor number stages = []) ∧
    (∀ message, first.Fails number message ↔ first.complaint? errand = some message) ∧
    (∀ message, first.Fails number message →
      first.after = { s.withPanel errand { error := some message } with
        calls := s.calls ++ [none] } ∧
      askedFor number stages = []) ∧
    ((¬ ∃ last ∈ stages, last.ComesTo number .skipped) →
      (¬ ∃ message, first.Fails number message) →
      ∃ on, first.call? = some (number, .waiting on) ∧
        on.held? = some (errand, ((s.tickets errand.page).issue errand.lane).1) ∧
        first.after.tickets errand.page = ((s.tickets errand.page).issue errand.lane).2 ∧
        (∀ page, page ≠ errand.page → first.after.tickets page = s.tickets page) ∧
        askedFor number stages = [on.call]) := by
  -- By how the call starts: it is skipped, it is turned down, or it asks.
  intro number first stages
  have called : first.event = .call call := rfl
  have begins : first ∈ stages := List.mem_cons_self
  have atOnce : (∃ last ∈ stages, last.ComesTo number .skipped) → first.ComesTo number .skipped :=
    fun ⟨_, member, skipped⟩ => skipped_at_once called member skipped
  have asked : askedFor number stages =
      (first.request? number).toList ++ askedFor number (first.after.stages run) :=
    askedFor_cons number first _
  -- A call that has ended at its first step asks for nothing.
  have silent {result : Result} (taken : first.call? = some (number, .finished result)) :
      askedFor number stages = [] := by
    rw [asked, (Stage.isSpent_of_finished taken).askedFor_eq, Stage.request?, taken]
    rfl
  cases Stage.outset called made unloading with
  | skips taken came uncomplained after =>
    have unfailed (message : String) : ¬ first.Fails number message := fun fails => by
      cases came.symm.trans (Stage.ComesTo.outcome_eq fails taken)
    refine ⟨fun _ => ⟨after, silent taken⟩, fun message => ?_, fun message fails => ?_,
      fun unskipped => ?_⟩
    · simp [unfailed, uncomplained]
    · exact absurd fails (unfailed message)
    · exact absurd ⟨first, begins, _, taken, came⟩ unskipped
  | @refuses _ told taken came complained after =>
    have same {message : String} (fails : first.Fails number message) : message = told := by
      cases came.symm.trans (Stage.ComesTo.outcome_eq fails taken)
      rfl
    refine ⟨fun skipped => ?_, fun message => ⟨fun fails => ?_, fun complains => ?_⟩,
      fun message fails => ?_, fun _ unfailed => ?_⟩
    · cases came.symm.trans ((atOnce skipped).outcome_eq taken)
    · rw [same fails]
      exact complained
    · cases complained.symm.trans complains
      exact ⟨_, taken, came⟩
    · rw [same fails]
      exact ⟨after, silent taken⟩
    · exact absurd ⟨told, _, taken, came⟩ unfailed
  | @asks on taken last holds uncomplained tickets others =>
    have taken : first.call? = some (number, .waiting on) := taken
    have unended := Stage.not_comesTo_of_waiting taken
    refine ⟨fun skipped => absurd (atOnce skipped) (unended _), fun message => ?_,
      fun message fails => absurd fails (unended _), fun _ _ =>
      ⟨on, taken, holds, tickets, others, ?_⟩⟩
    · rw [uncomplained]
      exact iff_of_false (unended _) nofun
    · rw [asked, (Stage.isSpent_of_waiting taken last).askedFor_eq,
        Stage.request?_eq_some_iff.2 ⟨on, taken, rfl⟩]
      rfl

/-- Something is being compiled, and meanwhile a file of the wrong kind was put in. -/
def compiling : Session := ({} : Session).after [
  ⟨⟨0⟩, .edit (.form fun form => { form with source := "box()" })⟩,
  ⟨⟨1⟩, .call (.playground .compile)⟩,
  ⟨⟨2⟩, .edit (.form fun form => { form with upload := some ⟨"model.obj", []⟩ })⟩]

/-- To compile the file of the wrong kind changes nothing but the panel, and asks for nothing, not
even once the model that is being compiled is there or is not. -/
theorem wrong_file_disturbs_nothing :
    let again : Moment := ⟨⟨3⟩, .call (.playground .compile)⟩
    (Call.playground .compile).errand? = some .compile ∧ Errand.compile ≠ .load ∧
    (compiling.stage again).Fails 1 Playground.unsupportedUpload ∧
    (compiling.stage again).after =
      { compiling.withPanel .compile { error := some Playground.unsupportedUpload } with
        calls := compiling.calls ++ [none] } ∧
    askedFor 1 (compiling.stages
      [again, ⟨⟨4⟩, .arrival 0 (.failure (.unreachable "timeout"))⟩]) = [] := by
  -- The file is turned down at once, so the theorem tells what is left and that nothing is asked
  -- for.
  obtain ⟨-, failsIff, fails, -⟩ := @guarded_call_disturbs_nothing compiling ⟨3⟩
    (.playground .compile) .compile rfl nofun
    [⟨⟨4⟩, .arrival 0 (.failure (.unreachable "timeout"))⟩]
  have failed := (failsIff Playground.unsupportedUpload).2 (by decide)
  exact ⟨rfl, nofun, failed, fails _ failed⟩

end Session

end SelectorTutorial
