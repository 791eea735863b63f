import SelectorTutorial.Proofs.Session.LessonPage
import SelectorTutorial.Proofs.Session.Playground
import SelectorTutorial.Proofs.Session.Run

/-! All that a stage of a run can do, and which errands it starts, ends and overtakes. -/

namespace SelectorTutorial

/-- A part of a part of a call has come as far as the part. -/
theorem Progress.map_map {W W' W'' R R' R'' : Type} (f : W → W') (g : R → R') (f' : W' → W'')
    (g' : R' → R'') (progress : Progress W R) :
    (progress.map f g).map f' g' = progress.map (f' ∘ f) (g' ∘ g) := by
  -- It waits or has ended, and both are mapped one after the other.
  cases progress <;> rfl

/-- A part of a call waits exactly as the call does. -/
theorem Progress.map_eq_waiting {W W' R R' : Type} {f : W → W'} {g : R → R'}
    {progress : Progress W R} {on : W'} :
    progress.map f g = .waiting on ↔ ∃ next, progress = .waiting next ∧ f next = on := by
  -- What has ended does not wait.
  cases progress <;> simp [map]

/-- A part of a call ends exactly as the call does. -/
theorem Progress.map_eq_finished {W W' R R' : Type} {f : W → W'} {g : R → R'}
    {progress : Progress W R} {result : R'} :
    progress.map f g = .finished result ↔ ∃ mine, progress = .finished mine ∧ g mine = result := by
  -- What waits has not ended.
  cases progress <;> simp [map]

namespace Session

namespace Stage

/-- A stage takes a step of a call of the lesson page. -/
structure TakesLesson (g : Stage) (number : Nat) (step : LessonPage.Step) : Prop where
  /-- The lesson page is the one after the step. -/
  lesson : g.after.lesson = step.page
  /-- So is what is shared. -/
  shared : g.after.shared = step.shared
  /-- The playground has no part in it. -/
  playground : g.after.playground = g.before.playground
  /-- The call has come as far as the step has taken it. -/
  taken : g.call? = some (number, step.progress.map .lesson .lesson)

/-- A stage takes a step of a call of the playground. -/
structure TakesPlayground (g : Stage) (number : Nat) (step : Playground.Step) : Prop where
  /-- The playground is the one after the step. -/
  playground : g.after.playground = step.page
  /-- So is what is shared. -/
  shared : g.after.shared = step.shared
  /-- The lesson page has no part in it. -/
  lesson : g.after.lesson = g.before.lesson
  /-- The call has come as far as the step has taken it. -/
  taken : g.call? = some (number, step.progress.map .playground .playground)

/-- A call of the lesson page waits for something of that page. -/
theorem TakesLesson.waiting {g : Stage} {number other : Nat} {step : LessonPage.Step} {on : Waiting}
    (takes : g.TakesLesson number step) (taken : g.call? = some (other, .waiting on)) :
    other = number ∧ ∃ next, step.progress = .waiting next ∧ on = .lesson next := by
  -- The stage wraps what the step waits for, and wrapping can be undone.
  rw [takes.taken, Option.some.injEq, Prod.mk.injEq] at taken
  obtain ⟨next, waits, same⟩ := Progress.map_eq_waiting.1 taken.2
  exact ⟨taken.1.symm, next, waits, same.symm⟩

/-- A call of the playground waits for something of that page. -/
theorem TakesPlayground.waiting {g : Stage} {number other : Nat} {step : Playground.Step}
    {on : Waiting} (takes : g.TakesPlayground number step)
    (taken : g.call? = some (other, .waiting on)) :
    other = number ∧ ∃ next, step.progress = .waiting next ∧ on = .playground next := by
  -- As on the lesson page.
  rw [takes.taken, Option.some.injEq, Prod.mk.injEq] at taken
  obtain ⟨next, waits, same⟩ := Progress.map_eq_waiting.1 taken.2
  exact ⟨taken.1.symm, next, waits, same.symm⟩

/-- A call of the lesson page takes its first step on that page. -/
theorem begins_of_lesson {g : Stage} {call : LessonPage.Call}
    (called : g.event = .call (.lesson call)) :
    ∃ step, LessonPage.Begins g.time g.before.lesson g.before.shared call step ∧
      g.TakesLesson g.before.calls.length step := by
  -- The session takes the step of the page and puts the page back, so all fields agree.
  obtain ⟨after, taken⟩ := of_call called
  exact ⟨_, LessonPage.start_begins g.time g.before.lesson g.before.shared call,
    by rw [after]; rfl, by rw [after]; rfl, by rw [after]; rfl, taken⟩

/-- A call of the lesson page that waits takes its next step on that page. -/
theorem goesOn_of_lesson {g : Stage} {number : Nat} {answers : Answers} {on : LessonPage.Waiting}
    (arrived : g.event = .arrival number answers)
    (waits : g.before.waiting? number = some (.lesson on)) :
    ∃ step, LessonPage.GoesOn g.time answers g.before.lesson g.before.shared on step ∧
      g.TakesLesson number step := by
  -- As for a first step, with the call that waits in the place of a new one.
  obtain ⟨after, taken⟩ := of_arrival arrived waits
  exact ⟨_, LessonPage.resume_goesOn g.time answers g.before.lesson g.before.shared on,
    by rw [after]; rfl, by rw [after]; rfl, by rw [after]; rfl, taken⟩

/-- A call of the playground takes its first step on that page. -/
theorem begins_of_playground {g : Stage} {call : Playground.Call}
    (called : g.event = .call (.playground call)) :
    ∃ step, Playground.Begins g.before.playground g.before.shared call step ∧
      g.TakesPlayground g.before.calls.length step := by
  -- As on the lesson page.
  obtain ⟨after, taken⟩ := of_call called
  exact ⟨_, Playground.start_begins g.before.playground g.before.shared call,
    by rw [after]; rfl, by rw [after]; rfl, by rw [after]; rfl, taken⟩

/-- A call of the playground that waits takes its next step on that page. -/
theorem goesOn_of_playground {g : Stage} {number : Nat} {answers : Answers}
    {on : Playground.Waiting} (arrived : g.event = .arrival number answers)
    (waits : g.before.waiting? number = some (.playground on)) :
    ∃ step, Playground.GoesOn g.time answers g.before.playground g.before.shared on step ∧
      g.TakesPlayground number step := by
  -- As on the lesson page.
  obtain ⟨after, taken⟩ := of_arrival arrived waits
  exact ⟨_, Playground.resume_goesOn g.time answers g.before.playground g.before.shared on,
    by rw [after]; rfl, by rw [after]; rfl, by rw [after]; rfl, taken⟩

/-- At most the lists are fetched, on behalf of neither page. -/
structure FetchesLists (g : Stage) : Prop where
  /-- Nothing is edited. -/
  unedited : ∀ edit, g.event ≠ .edit edit
  /-- The lesson page has no part in it. -/
  lesson : g.after.lesson = g.before.lesson
  /-- The playground has no part in it. -/
  playground : g.after.playground = g.before.playground
  /-- Nothing that is shared changes but the lists. -/
  shared : g.before.shared.SameButLists g.after.shared
  /-- The call that does so has no ticket before or after. -/
  ticketless : ∀ number progress, g.call? = some (number, progress) →
    (∀ on, progress = .waiting on → on.held? = none) ∧
      ∀ on, g.before.waiting? number = some on → on.held? = none

/-- A first step towards the lists asks for them at most. -/
theorem fetchesLists_of_call {g : Stage} {call : Call} (called : g.event = .call call)
    (same : (g.before.begin g.time call).1 = g.before)
    (free : ∀ on, (g.before.begin g.time call).2 = .waiting on → on.held? = none) :
    FetchesLists g := by
  -- The stage only adds the call, which holds no ticket.
  obtain ⟨after, taken⟩ := of_call called
  rw [same] at after
  refine ⟨by simp [called], by rw [after], by rw [after], by rw [after]; rfl, ?_⟩
  intro number progress begun
  rw [taken] at begun
  cases begun
  -- Before this step nothing waits under the number of the call.
  have unstarted : g.before.waiting? g.before.calls.length = none := by simp [waiting?]
  exact ⟨free, by simp [unstarted]⟩

/-- A later step towards the lists fetches them at most. -/
theorem fetchesLists_of_goOn {g : Stage} {number : Nat} {answers : Answers} {on : Waiting}
    (arrived : g.event = .arrival number answers) (waits : g.before.waiting? number = some on)
    (free : on.held? = none)
    (lesson : (g.before.goOn g.time answers on).1.lesson = g.before.lesson)
    (playground : (g.before.goOn g.time answers on).1.playground = g.before.playground)
    (shared : g.before.shared.SameButLists (g.before.goOn g.time answers on).1.shared)
    (still : ∀ next, (g.before.goOn g.time answers on).2 = .waiting next → next.held? = none) :
    FetchesLists g := by
  -- A call that had no ticket before this step gets none by it.
  obtain ⟨after, taken⟩ := of_arrival arrived waits
  refine ⟨by simp [arrived], by rw [after]; exact lesson, by rw [after]; exact playground,
    by rw [after]; exact shared, ?_⟩
  intro number progress begun
  rw [taken] at begun
  cases begun
  exact ⟨still, by simpa [waits] using free⟩

/-- A call that waits for the lessons fetches them at most. -/
theorem fetchesLists_of_lessons {g : Stage} {number : Nat} {answers : Answers}
    (arrived : g.event = .arrival number answers)
    (waits : g.before.waiting? number = some .lessons) : FetchesLists g := by
  -- The lessons on their own are fetched as those of the catalog are.
  have fetched := Catalog.resume_sameButLists g.time answers g.before.shared .lessons
  refine fetchesLists_of_goOn arrived waits rfl ?_ ?_ ?_ fun next goesOn => ?_
  · simp only [goOn]
    split <;> rfl
  · simp only [goOn]
    split <;> rfl
  · simp only [Catalog.resume] at fetched
    simp only [goOn]
    generalize Catalog.takeLessons g.time answers g.before.shared = lessons at fetched ⊢
    cases lessons <;> exact fetched
  · simp only [goOn] at goesOn
    split at goesOn <;> cases goesOn

/-- A call that waits for a list of the catalog fetches it at most. -/
theorem fetchesLists_of_catalog {g : Stage} {number : Nat} {answers : Answers}
    {on : Catalog.Waiting} (arrived : g.event = .arrival number answers)
    (waits : g.before.waiting? number = some (.catalog on)) : FetchesLists g := by
  -- The catalog takes this step on its own, and both pages are passed over.
  have fetched := Catalog.resume_sameButLists g.time answers g.before.shared on
  refine fetchesLists_of_goOn arrived waits rfl rfl rfl fetched fun next goesOn => ?_
  obtain ⟨list, -, rfl⟩ := Progress.map_eq_waiting.1 goesOn
  rfl

/-- All that a stage can do, told by the page that it is about. -/
inductive Course (g : Stage) : Prop
  /-- The lists are fetched. -/
  | lists (fetches : g.FetchesLists)
  /-- Something is edited. -/
  | edits {edit} (edited : g.event = .edit edit)
  /-- A call of the lesson page takes its first step. -/
  | lessonBegins {call step} (called : g.event = .call (.lesson call))
      (begins : LessonPage.Begins g.time g.before.lesson g.before.shared call step)
      (takes : g.TakesLesson g.before.calls.length step)
  /-- A call of the lesson page takes a later step. -/
  | lessonGoesOn {number answers on step} (arrived : g.event = .arrival number answers)
      (waits : g.before.waiting? number = some (.lesson on))
      (goesOn : LessonPage.GoesOn g.time answers g.before.lesson g.before.shared on step)
      (takes : g.TakesLesson number step)
  /-- A call of the playground takes its first step. -/
  | playgroundBegins {call step} (called : g.event = .call (.playground call))
      (begins : Playground.Begins g.before.playground g.before.shared call step)
      (takes : g.TakesPlayground g.before.calls.length step)
  /-- A call of the playground takes a later step. -/
  | playgroundGoesOn {number answers on step} (arrived : g.event = .arrival number answers)
      (waits : g.before.waiting? number = some (.playground on))
      (goesOn : Playground.GoesOn g.time answers g.before.playground g.before.shared on step)
      (takes : g.TakesPlayground number step)

/-- A stage that starts a call does one of these things. -/
theorem course_of_call {g : Stage} {call : Call} (called : g.event = .call call) : Course g := by
  -- The calls for the lists hold no ticket, and the others belong to one of the pages.
  cases call with
  | ensureLessons =>
    refine .lists (fetchesLists_of_call called ?_ fun on waits => ?_)
    · simp only [begin]
      split <;> rfl
    · simp only [begin] at waits
      split at waits <;> cases waits
      rfl
  | ensureCatalog =>
    refine .lists (fetchesLists_of_call called rfl fun on waits => ?_)
    obtain ⟨list, -, rfl⟩ := Progress.map_eq_waiting.1 waits
    rfl
  | lesson call =>
    obtain ⟨step, begins, takes⟩ := begins_of_lesson called
    exact .lessonBegins called begins takes
  | playground call =>
    obtain ⟨step, begins, takes⟩ := begins_of_playground called
    exact .playgroundBegins called begins takes

/-- A stage at which an answer arrives that is waited for does one of these things. -/
theorem course_of_arrival {g : Stage} {number : Nat} {answers : Answers} {on : Waiting}
    (arrived : g.event = .arrival number answers) (waits : g.before.waiting? number = some on) :
    Course g := by
  -- What the call waits for tells on whose behalf it goes on.
  cases on with
  | lessons => exact .lists (fetchesLists_of_lessons arrived waits)
  | catalog on => exact .lists (fetchesLists_of_catalog arrived waits)
  | lesson on =>
    obtain ⟨step, goesOn, takes⟩ := goesOn_of_lesson arrived waits
    exact .lessonGoesOn arrived waits goesOn takes
  | playground on =>
    obtain ⟨step, goesOn, takes⟩ := goesOn_of_playground arrived waits
    exact .playgroundGoesOn arrived waits goesOn takes

/-- Every stage does one of these things. -/
theorem course (g : Stage) : Course g := by
  -- By the event, and for an answer by whether anything waits for it.
  cases event : g.event with
  | call call => exact course_of_call event
  | edit edit => exact .edits event
  | arrival number answers =>
    cases waits : g.before.waiting? number with
    | some on => exact course_of_arrival event waits
    | none =>
      -- Nobody waits for the answer, and nothing happens.
      obtain ⟨after, none⟩ := of_stray event waits
      exact .lists ⟨by simp [event], by rw [after], by rw [after], by rw [after]; rfl,
        by simp [none]⟩

/-! ### Errands -/

/-- A stage starts an errand: the call passes what guards it and asks the backend. -/
def Starts (g : Stage) (errand : Errand) (number : Nat) : Prop :=
  ∃ call on ticket, g.event = .call call ∧ g.call? = some (number, .waiting on) ∧
    on.held? = some (errand, ticket)

/-- Nothing keeps a load from starting. -/
theorem starts_load_of_call {g : Stage} {id : Lesson.Id}
    (called : g.event = .call (.lesson (.load id))) : g.Starts .load g.before.calls.length :=
  -- The first step of a load waits for its lesson, with a ticket.
  ⟨_, _, _, called, (of_call called).2, rfl⟩

/-- A stage ends an errand, which came to some outcome. -/
def Ends (g : Stage) (errand : Errand) (number : Nat) (outcome : Outcome) : Prop :=
  ∃ answers on ticket result, g.event = .arrival number answers ∧
    g.before.waiting? number = some on ∧ on.held? = some (errand, ticket) ∧
    g.call? = some (number, .finished result) ∧ result.outcome? = some outcome

/-- Fetching the lists starts no errand. -/
theorem FetchesLists.not_starts {g : Stage} (fetches : g.FetchesLists) {errand : Errand}
    {number : Nat} : ¬ g.Starts errand number := by
  -- An errand starts with a ticket, and lists are fetched without one.
  intro starts
  obtain ⟨call, on, ticket, called, taken, holds⟩ := starts
  have free := (fetches.ticketless _ _ taken).1 on rfl
  simp [free] at holds

/-- Fetching the lists ends no errand. -/
theorem FetchesLists.not_ends {g : Stage} (fetches : g.FetchesLists) {errand : Errand}
    {number : Nat} {outcome : Outcome} : ¬ g.Ends errand number outcome := by
  -- An errand ends with its ticket, and lists are fetched without one.
  intro ends
  obtain ⟨answers, on, ticket, result, arrived, waits, holds, taken, -⟩ := ends
  have free := (fetches.ticketless _ _ taken).2 on waits
  simp [free] at holds

/-- A stage makes every earlier errand of a kind late. -/
def Overtakes (g : Stage) : Errand → Prop
  -- Another load starts.
  | .load => ∃ number, g.Starts .load number
  -- Another selector is run on the page, or another lesson is shown.
  | .lessonRun => (∃ number, g.Starts .lessonRun number) ∨ ∃ number, g.Ends .load number .applied
  -- Something else is compiled.
  | .compile => ∃ number, g.Starts .compile number
  -- Another selector is run on the page, another model is shown, or the selection is let go.
  | .playgroundRun => (∃ number, g.Starts .playgroundRun number) ∨
      (∃ number, g.Ends .compile number .applied) ∨ g.event = .edit .clearSelection

end Stage

end Session

end SelectorTutorial
