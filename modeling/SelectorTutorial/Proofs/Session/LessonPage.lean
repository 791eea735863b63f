import SelectorTutorial.Proofs.Session.Errand

/-! All that one step of a call of the lesson page can do, said once. -/

namespace SelectorTutorial

/-- The lists may have been fetched meanwhile, and nothing else that is shared has changed. -/
def Snapshot.Fetched (now : Timestamp) (answers : Answers) (old new : Snapshot) : Prop :=
  new = old ∨ ∃ lessons, answers .lessons = .ok lessons ∧ new = old.apply now (.lessons lessons)

namespace LessonPage

/-- The page once a lesson with its model has taken the place of the one before. -/
def showing (page : LessonPage) (lesson : Lesson) (model : Option Model) : LessonPage :=
  { page with
    lesson := some lesson
    selection := lesson.startingSelection
    model
    showsSolution := false
    status := page.status.succeed
    selectionStatus := {}
    tickets := page.tickets.invalidate .selection }

/-- Putting the selector back changes what stands in the editor and nothing else. -/
theorem resetSelection_eq (page : LessonPage) :
    page.resetSelection = { page with selection := page.resetSelection.selection } := by
  -- Without a lesson there is no text to put back.
  unfold resetSelection
  split <;> rfl

/-- To reset the selector issues no ticket. -/
@[simp] theorem resetSelection_tickets (page : LessonPage) :
    page.resetSelection.tickets = page.tickets := by
  -- It fills the editor only.
  rw [resetSelection_eq]

/-- A call that runs the selector, by itself or by its key. -/
def Call.Runs (call : Call) : Prop :=
  call = .run ∨ ∃ key, call = .press key ∧ key.shortcut = some .runSelection

/-- What the first step of a call comes to. -/
inductive Begins (now : Timestamp) (page : LessonPage) (shared : Snapshot) : Call → Step → Prop
  /-- It is known where to go. -/
  | routed {requested route} :
      Begins now page shared (.resolveRoute requested) ⟨page, shared, .finished (.route route)⟩
  /-- The lessons are needed to know where to go. -/
  | asked (unknown : shared.lessons.isEmpty = true) :
      Begins now page shared (.resolveRoute none) ⟨page, shared, .waiting .route⟩
  /-- A lesson is asked for under a new ticket. -/
  | loads {id} :
      Begins now page shared (.load id)
        ⟨{ page with status := page.status.begin, tickets := page.tickets.invalidate .lesson },
          shared, .waiting (.lesson (page.tickets.issue .lesson).1 id)⟩
  /-- There is no selector, or nothing to run it against. -/
  | skipped {call} (runs : call.Runs)
      (lacking : page.model = none ∨ Text.trim page.selection = "") :
      Begins now page shared call ⟨page, shared, .finished (.done .skipped)⟩
  /-- The selector is run against the model of the page under a new ticket. -/
  | runs {call model} (runs : call.Runs) (has : page.model = some model)
      (typed : Text.trim page.selection ≠ "") :
      Begins now page shared call
        ⟨{ page with
            selectionStatus := page.selectionStatus.begin
            tickets := page.tickets.invalidate .selection },
          shared,
          .waiting (.selection (page.tickets.issue .selection).1
            (.of model.id (Text.trim page.selection) none))⟩
  /-- The viewport draws the other way. -/
  | toggled {key} (bound : key.shortcut = some .toggleMode) :
      Begins now page shared (.press key)
        ⟨page, shared.apply now .mode, .finished (.done .applied)⟩
  /-- The key stands for nothing. -/
  | unbound {key} (unbound : key.shortcut = none) :
      Begins now page shared (.press key) ⟨page, shared, .finished .unbound⟩

/-- The lesson and the model with which an answer completes a load. -/
inductive Obtains (answers : Answers) : Waiting → Ticket → Lesson → Option Model → Prop
  /-- The lesson needs no model. -/
  | bare {ticket id lesson} (answered : answers (.lesson id) = .ok lesson)
      (unnamed : lesson.model = none) : Obtains answers (.lesson ticket id) ticket lesson none
  /-- The model of the lesson is there as well. -/
  | modelled {ticket id lesson source model}
      (answered : answers (.compile (.example source)) = .ok model) :
      Obtains answers (.model ticket id lesson source) ticket lesson (some model)

/-- What completes a load is a call that loads, with the ticket of that load. -/
theorem Obtains.holds {answers : Answers} {on : Waiting} {ticket : Ticket} {lesson : Lesson}
    {model : Option Model} (obtained : Obtains answers on ticket lesson model) :
    on.held? = some (.load, ticket) := by
  -- The lesson and the model are both asked for with the ticket of the load.
  cases obtained <;> rfl

/-- What a later step of a call comes to. -/
inductive GoesOn (now : Timestamp) (answers : Answers) (page : LessonPage) (shared : Snapshot) :
    Waiting → Step → Prop
  /-- The lessons are there, and with them the page to go to. -/
  | found {lessons} (answered : answers .lessons = .ok lessons) :
      GoesOn now answers page shared .route
        ⟨page, shared.apply now (.lessons lessons),
          .finished (.route (firstRoute (shared.apply now (.lessons lessons))))⟩
  /-- The lessons cannot be fetched, which the page shows. -/
  | lost {error} (answered : answers .lessons = .error error) :
      GoesOn now answers page shared .route
        ⟨{ page with status := page.status.fail (error.shownIn .catalog) }, shared,
          .finished (.route none)⟩
  /-- The lesson is there, and its model is asked for. -/
  | fetched {ticket id lesson source} (answered : answers (.lesson id) = .ok lesson)
      (named : lesson.model = some source) :
      GoesOn now answers page shared (.lesson ticket id)
        ⟨page, shared, .waiting (.model ticket id lesson source)⟩
  /-- The lesson is not there, and the lessons are needed to find another one. -/
  | seeks {on ticket id cause} (holds : on.held? = some (.load, ticket))
      (missing : cause.isNotFound = true) (unknown : shared.lessons.isEmpty = true) :
      GoesOn now answers page shared on ⟨page, shared, .waiting (.redirect ticket id cause)⟩
  /-- The lesson takes the place of the one before. -/
  | applied {on ticket lesson model} (obtained : Obtains answers on ticket lesson model)
      (current : page.tickets.isCurrent ticket = true) :
      GoesOn now answers page shared on
        ⟨page.showing lesson model, (shared.apply now (.model model)).apply now (.result none),
          .finished (.loaded .applied none)⟩
  /-- The lesson cannot be loaded, which the page shows. -/
  | failed {on ticket fetched redirect} {cause : BackendError}
      (holds : on.held? = some (.load, ticket)) (current : page.tickets.isCurrent ticket = true)
      (lists : shared.Fetched now answers fetched) :
      GoesOn now answers page shared on
        ⟨{ page with status := page.status.fail (cause.shownIn .loadLesson) }, fetched,
          .finished (.loaded (.failed (cause.shownIn .loadLesson)) redirect)⟩
  /-- The result of the selector is there. -/
  | selected {ticket request result} (current : page.tickets.isCurrent ticket = true)
      (answered : answers (.select request) = .ok result) :
      GoesOn now answers page shared (.selection ticket request)
        ⟨{ page with selectionStatus := page.selectionStatus.succeed },
          shared.apply now (.result (some result)), .finished (.done .applied)⟩
  /-- The selector cannot be run, which the page shows. -/
  | refused {ticket request error} (current : page.tickets.isCurrent ticket = true)
      (answered : answers (.select request) = .error error) :
      GoesOn now answers page shared (.selection ticket request)
        ⟨{ page with selectionStatus := page.selectionStatus.fail (error.shownIn .selection) },
          shared, .finished (.done (.failed (error.shownIn .selection)))⟩
  /-- The ticket is late, and what came back is dropped. -/
  | late {on errand ticket fetched result} (holds : on.held? = some (errand, ticket))
      (late : page.tickets.isCurrent ticket = false) (lists : shared.Fetched now answers fetched)
      (dropped : result.outcome? = some .superseded) :
      GoesOn now answers page shared on ⟨page, fetched, .finished result⟩

/-- Running the selector either finds nothing to run or takes a ticket. -/
theorem startRun_begins (now : Timestamp) (page : LessonPage) (shared : Snapshot) {call : Call}
    (runs : call.Runs) : Begins now page shared call (page.startRun shared) := by
  -- Two things guard a run: a model of the page, and a selector that is not blank.
  unfold startRun
  split
  · next lacking => exact .skipped runs (.inl lacking)
  · next model has =>
    by_cases blank : Text.trim page.selection = ""
    · rw [if_pos blank]
      exact .skipped runs (.inr blank)
    · rw [if_neg blank]
      exact .runs runs has blank

/-- The first step of a call does one of these things. -/
theorem start_begins (now : Timestamp) (page : LessonPage) (shared : Snapshot) (call : Call) :
    Begins now page shared call (page.start now shared call) := by
  -- The key for running the selector is another way to run it, past the same guards.
  cases call with
  | resolveRoute requested =>
    cases requested with
    | some id => exact .routed
    | none =>
      simp only [start]
      split
      · next unknown => exact .asked unknown
      · exact .routed
  | load id => exact .loads
  | run => exact startRun_begins now page shared (.inl rfl)
  | press key =>
    simp only [start]
    split
    · next bound => exact startRun_begins now page shared (.inr ⟨key, rfl, bound⟩)
    · next bound => exact .toggled bound
    · next unbound => exact .unbound unbound

/-- Completing a load shows the lesson, or drops it when its ticket is late. -/
theorem finishLoad_goesOn (now : Timestamp) {answers : Answers} (page : LessonPage)
    (shared : Snapshot) {on : Waiting} {ticket : Ticket} {lesson : Lesson} {model : Option Model}
    (obtained : Obtains answers on ticket lesson model) :
    GoesOn now answers page shared on (finishLoad now page shared ticket lesson model) := by
  -- Whether the load is late is decided when its last answer is there.
  unfold finishLoad
  split
  · next current => exact .applied obtained current
  · next late => exact .late obtained.holds (by simpa using late) (.inl rfl) rfl

/-- Giving a load up shows why, or nothing when its ticket is late. -/
theorem failLoad_goesOn (now : Timestamp) {answers : Answers} (page : LessonPage)
    {shared fetched : Snapshot} {on : Waiting} {ticket : Ticket} (cause : BackendError)
    (redirect : Option Route) (holds : on.held? = some (.load, ticket))
    (lists : shared.Fetched now answers fetched) :
    GoesOn now answers page shared on (failLoad page fetched ticket cause redirect) := by
  -- A load that is late does not even show that it failed.
  unfold failLoad
  split
  · next current => exact .failed holds current lists
  · next late => exact .late holds (by simpa using late) lists rfl

/-- A load that meets an error asks for the lessons or is given up. -/
theorem seekRedirect_goesOn (now : Timestamp) {answers : Answers} (page : LessonPage)
    (shared : Snapshot) {on : Waiting} {ticket : Ticket} (id : Lesson.Id) (cause : BackendError)
    (holds : on.held? = some (.load, ticket)) :
    GoesOn now answers page shared on (seekRedirect page shared ticket id cause) := by
  -- Another lesson is looked for only in the place of one that does not exist.
  unfold seekRedirect
  split
  · exact failLoad_goesOn now page cause none holds (.inl rfl)
  · next missing =>
    split
    · next unknown => exact .seeks holds (by simpa using missing) unknown
    · exact failLoad_goesOn now page cause _ holds (.inl rfl)

/-- A later step of a call does one of these things. -/
theorem resume_goesOn (now : Timestamp) (answers : Answers) (page : LessonPage)
    (shared : Snapshot) (on : Waiting) :
    GoesOn now answers page shared on (page.resume now answers shared on) := by
  -- What the call waits for tells which of its steps comes next.
  cases on with
  | route =>
    simp only [resume, Catalog.takeLessons]
    cases answered : answers .lessons with
    | ok lessons => exact .found answered
    | error error => exact .lost answered
  | lesson ticket id =>
    simp only [resume]
    split
    · exact seekRedirect_goesOn now page shared id _ rfl
    · next lesson answered =>
      split
      · next source named => exact .fetched answered named
      · next unnamed => exact finishLoad_goesOn now page shared (.bare answered unnamed)
  | model ticket id lesson source =>
    simp only [resume]
    split
    · exact seekRedirect_goesOn now page shared id _ rfl
    · next model answered => exact finishLoad_goesOn now page shared (.modelled answered)
  | redirect ticket id cause =>
    -- The load is given up in any case; the lessons only tell where to go instead.
    simp only [resume, Catalog.takeLessons]
    cases answered : answers .lessons with
    | ok lessons => exact failLoad_goesOn now page cause _ rfl (.inr ⟨lessons, answered, rfl⟩)
    | error error => exact failLoad_goesOn now page cause none rfl (.inl rfl)
  | selection ticket request =>
    simp only [resume]
    split
    · next current =>
      split
      · next result answered => exact .selected current answered
      · next error answered => exact .refused current answered
    · next late => exact .late rfl (by simpa using late) (.inl rfl) rfl

/-- Giving a load up ends it. -/
theorem failLoad_finished (page : LessonPage) (shared : Snapshot) (ticket : Ticket)
    (cause : BackendError) (redirect : Option Route) :
    ∃ result, (failLoad page shared ticket cause redirect).progress = .finished result := by
  -- Late or not, it ends.
  unfold failLoad
  split <;> exact ⟨_, rfl⟩

/-- Showing a lesson ends the load, whether or not its ticket counts. -/
theorem finishLoad_finished (now : Timestamp) (page : LessonPage) (shared : Snapshot)
    (ticket : Ticket) (lesson : Lesson) (model : Option Model) :
    ∃ result, (finishLoad now page shared ticket lesson model).progress = .finished result := by
  -- Late or not, it ends.
  unfold finishLoad
  split <;> exact ⟨_, rfl⟩

/-- The first step of a call takes a ticket or does without. -/
theorem Begins.takes {now : Timestamp} {page : LessonPage} {shared : Snapshot} {call : Call}
    {step : Step} (begins : Begins now page shared call step) :
    page.tickets.Takes .lesson step.page.tickets
      (step.progress.map Waiting.held? Result.outcome?) := by
  -- Only loading and running ask for something that can come too late.
  cases begins with
  | loads => exact .issues .load rfl
  | runs => exact .issues .lessonRun rfl
  | routed | asked | skipped | toggled | unbound =>
    exact .without (by simp [Progress.map, Waiting.held?])

/-- A later step of a call keeps its ticket, drops its answer or makes it count. -/
theorem GoesOn.handles {now : Timestamp} {answers : Answers} {page : LessonPage}
    {shared : Snapshot} {on : Waiting} {step : Step}
    (goesOn : GoesOn now answers page shared on step) :
    page.tickets.Handles .lesson on.held? step.page.tickets
      (step.progress.map Waiting.held? Result.outcome?) := by
  -- Between its requests a load keeps its ticket, and at its end the ticket decides.
  cases goesOn with
  | found | lost => exact .without (by simp [Progress.map])
  | fetched => exact .keeps rfl
  | seeks holds => rw [holds]; exact .keeps rfl
  | applied obtained current =>
    cases obtained <;> exact .counts .load .applied rfl current nofun
  | failed holds current => rw [holds]; exact .counts .load (.failed _) rfl current nofun
  | selected current => exact .counts .lessonRun .applied rfl current nofun
  | refused current => exact .counts .lessonRun (.failed _) rfl current nofun
  | late holds late lists dropped =>
    have own := Waiting.held?_page holds
    simp only [holds, Progress.map, dropped]
    exact .drops own late

end LessonPage

end SelectorTutorial
