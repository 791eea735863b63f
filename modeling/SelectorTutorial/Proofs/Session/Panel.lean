import SelectorTutorial.Proofs.Session.Staleness

/-! What the panels of the pages tell of the errands behind them. -/

namespace SelectorTutorial

namespace Playground

/-- What is wrong with the file that was chosen, if it cannot be compiled. -/
def faultOfFile? (page : Playground) : Option String :=
  match page.form.modelSource? with
  | some (.upload file) => if file.isSupported then none else some unsupportedUpload
  | _ => none

/-- Only a file of the wrong kind is at fault. -/
theorem faultOfFile?_eq_some_iff {page : Playground} {message : String} :
    page.faultOfFile? = some message ↔ ∃ file, page.form.modelSource? = some (.upload file) ∧
      file.isSupported = false ∧ message = unsupportedUpload := by
  -- By what is compiled, and by the kind of the file.
  unfold faultOfFile?
  split
  · next file chosen =>
    cases suited : file.isSupported with
    | true => simp [chosen, suited]
    | false =>
      constructor
      · intro fault
        cases fault
        exact ⟨file, chosen, suited, rfl⟩
      · rintro ⟨_, -, -, rfl⟩
        rfl
  · next other =>
    -- What is compiled is no file.
    constructor
    · intro fault
      cases fault
    · rintro ⟨file, chosen, -⟩
      exact absurd chosen (other file)

/-- What is wrong with a bound, if there is a selector to run and a model to run it against. -/
def faultOfBounds? (page : Playground) : Option String :=
  match page.model, page.form.filters.filters? with
  | some _, .error fault =>
    if Text.trim page.form.selection = "" then none else some fault.message
  | _, _ => none

/-- Only a bound that is no number is at fault. -/
theorem faultOfBounds?_eq_some_iff {page : Playground} {message : String} :
    page.faultOfBounds? = some message ↔ ∃ model fault, page.model = some model ∧
      Text.trim page.form.selection ≠ "" ∧ page.form.filters.filters? = .error fault ∧
      message = fault.message := by
  -- By whether there is a model and a bound that cannot be read.
  unfold faultOfBounds?
  split
  · next model fault has faulty =>
    by_cases blank : Text.trim page.form.selection = ""
    · simp [blank]
    · rw [if_neg blank]
      constructor
      · intro same
        cases same
        exact ⟨model, fault, has, blank, faulty, rfl⟩
      · rintro ⟨_, fault', -, -, faulty', rfl⟩
        rw [faulty] at faulty'
        cases faulty'
        rfl
  · next other =>
    -- There is no model, or the bounds can be read.
    constructor
    · intro fault
      cases fault
    · rintro ⟨model, fault, has, -, faulty, -⟩
      exact absurd faulty (other model fault has)

end Playground

namespace Session

/-- The panel that tells of an errand. -/
def panel (s : Session) : Errand → Panel
  | .load => s.lesson.status
  | .lessonRun => s.lesson.selectionStatus
  | .compile => s.playground.compileStatus
  | .playgroundRun => s.playground.selectionStatus

/-- What is shared has no panel. -/
@[simp] theorem panel_of_shared (shared : Snapshot) (errand : Errand) :
    ({ shared } : Session).panel errand = {} := by
  -- No page has done anything yet.
  cases errand <;> rfl

namespace Stage

/-- What a stage shows on the panel of an errand that it is not about. -/
def complaint? (g : Stage) : Errand → Option String
  -- The lessons cannot be fetched, and so it is not known which of them comes first.
  | .load =>
    match g.event with
    | .arrival number answers =>
      match g.before.waiting? number, answers .lessons with
      | some (.lesson .route), .error error => some (error.shownIn .catalog)
      | _, _ => none
    | _ => none
  -- A file is turned down before anything is compiled.
  | .compile =>
    match g.event with
    | .call (.playground .compile) => g.before.playground.faultOfFile?
    | _ => none
  -- A bound is turned down before anything is selected.
  | .playgroundRun =>
    match g.event with
    | .call (.playground .run) => g.before.playground.faultOfBounds?
    | _ => none
  -- On the lesson page nothing but a run can go wrong with a selector.
  | .lessonRun => none

/-- All that a stage can do to the panel of an errand. -/
inductive Tells (g : Stage) (errand : Errand) : Prop
  /-- The errand starts, and its panel waits. -/
  | starts {number} (starts : g.Starts errand number)
      (panel : g.after.panel errand = { isLoading := true })
  /-- The errand was applied, and its panel waits no more. -/
  | applied {number} (ends : g.Ends errand number .applied)
      (panel : g.after.panel errand = (g.before.panel errand).succeed)
  /-- The errand failed, and its panel shows why. -/
  | failed {number message} (ends : g.Ends errand number (.failed message))
      (panel : g.after.panel errand = (g.before.panel errand).fail message)
  /-- The errand makes no sense any more, and its panel is as at first. -/
  | wiped (overtakes : g.Overtakes errand) (unstarted : ∀ number, ¬ g.Starts errand number)
      (unended : ∀ number outcome, ¬ g.Ends errand number outcome)
      (panel : g.after.panel errand = {})
  /-- Something else went wrong, and the panel shows what. -/
  | complains {message} (complaint : g.complaint? errand = some message)
      (unended : ∀ number outcome, ¬ g.Ends errand number outcome)
      (reached : g.after.reached errand = g.before.reached errand)
      (panel : g.after.panel errand = (g.before.panel errand).fail message)
  /-- The panel stays as it is, and at most an answer is dropped. -/
  | keeps (uncomplained : g.complaint? errand = none)
      (unended : ∀ number outcome, g.Ends errand number outcome → outcome = .superseded)
      (reached : g.after.reached errand = g.before.reached errand)
      (panel : g.after.panel errand = g.before.panel errand)

/-- Fetching the lists leaves all panels alone. -/
theorem FetchesLists.tells {g : Stage} (fetches : g.FetchesLists) {errand : Errand}
    (uncomplained : g.complaint? errand = none) : g.Tells errand := by
  refine .keeps uncomplained (fun _ _ ends => absurd ends fetches.not_ends)
    (reached_eq (fetches.tickets _)) ?_
  -- Each panel belongs to a page, and neither page has a part in it.
  cases errand with
  | load | lessonRun => simp only [panel, fetches.lesson]
  | compile | playgroundRun => simp only [panel, fetches.playground]

/-- After a step of the lesson page the panels are those of a session with that page. -/
theorem TakesLesson.panel {g : Stage} {number : Nat} {step : LessonPage.Step}
    (takes : g.TakesLesson number step) (errand : Errand) :
    g.after.panel errand = ({ g.before with lesson := step.page } : Session).panel errand := by
  -- Two of the panels are on the page that took the step, the others on the page that stays.
  cases errand with
  | load | lessonRun => simp only [Session.panel, takes.lesson]
  | compile | playgroundRun => simp only [Session.panel, takes.playground]

/-- After a step of the playground the panels are those of a session with that page. -/
theorem TakesPlayground.panel {g : Stage} {number : Nat} {step : Playground.Step}
    (takes : g.TakesPlayground number step) (errand : Errand) :
    g.after.panel errand = ({ g.before with playground := step.page } : Session).panel errand := by
  -- Two of the panels are on the page that took the step, the others on the page that stays.
  cases errand with
  | load | lessonRun => simp only [Session.panel, takes.lesson]
  | compile | playgroundRun => simp only [Session.panel, takes.playground]

/-- After a step of the lesson page the numbers reached are those of a session with that page. -/
theorem TakesLesson.reached {g : Stage} {number : Nat} {step : LessonPage.Step}
    (takes : g.TakesLesson number step) (errand : Errand) :
    g.after.reached errand = ({ g.before with lesson := step.page } : Session).reached errand := by
  -- The numbers are told by the tickets of each page.
  cases errand with
  | load | lessonRun => exact reached_eq (congrArg LessonPage.tickets takes.lesson)
  | compile | playgroundRun => exact reached_eq (congrArg Playground.tickets takes.playground)

/-- After a step of the playground the numbers reached are those of a session with that page. -/
theorem TakesPlayground.reached {g : Stage} {number : Nat} {step : Playground.Step}
    (takes : g.TakesPlayground number step) (errand : Errand) :
    g.after.reached errand =
      ({ g.before with playground := step.page } : Session).reached errand := by
  -- The numbers are told by the tickets of each page.
  cases errand with
  | load | lessonRun => exact reached_eq (congrArg LessonPage.tickets takes.lesson)
  | compile | playgroundRun => exact reached_eq (congrArg Playground.tickets takes.playground)

/-- A step of the lesson page that changes neither panel nor number of an errand leaves it alone. -/
theorem TakesLesson.tells {g : Stage} {number : Nat} {step : LessonPage.Step} {errand : Errand}
    (takes : g.TakesLesson number step) (uncomplained : g.complaint? errand = none)
    (unended : ∀ number outcome, g.Ends errand number outcome → outcome = .superseded)
    (panel : ({ g.before with lesson := step.page } : Session).panel errand = g.before.panel errand)
    (reached : ({ g.before with lesson := step.page } : Session).reached errand =
      g.before.reached errand) : g.Tells errand := by
  -- What the stage leaves is the step, so the step decides.
  exact .keeps uncomplained unended ((takes.reached errand).trans reached)
    ((takes.panel errand).trans panel)

/-- A step of the playground that changes neither panel nor number of an errand leaves it alone. -/
theorem TakesPlayground.tells {g : Stage} {number : Nat} {step : Playground.Step} {errand : Errand}
    (takes : g.TakesPlayground number step) (uncomplained : g.complaint? errand = none)
    (unended : ∀ number outcome, g.Ends errand number outcome → outcome = .superseded)
    (panel : ({ g.before with playground := step.page } : Session).panel errand =
      g.before.panel errand)
    (reached : ({ g.before with playground := step.page } : Session).reached errand =
      g.before.reached errand) : g.Tells errand := by
  -- What the stage leaves is the step, so the step decides.
  exact .keeps uncomplained unended ((takes.reached errand).trans reached)
    ((takes.panel errand).trans panel)

/-- Of the edits only the one that lets a selection go touches a panel. -/
theorem tells_of_edit {g : Stage} {errand : Errand} {edit : Edit} (edited : g.event = .edit edit)
    (uncomplained : g.complaint? errand = none) : g.Tells errand := by
  -- Letting a selection go wipes its panel; any other edit changes texts, or what is shared.
  have after := (of_edit edited).1
  have unended : ∀ number outcome, ¬ g.Ends errand number outcome := fun _ _ =>
    not_ends_of_edit edited
  rcases reached_edit g.time g.before edit errand with ⟨⟨rfl, rfl⟩, -⟩ | ⟨kept, same⟩
  · exact .wiped (.inr (.inr edited)) (fun _ => not_starts_of_edit edited) unended
      (by rw [after]; rfl)
  · refine .keeps uncomplained (fun _ _ ends => absurd ends (unended _ _)) (by rw [after, same]) ?_
    rw [after]
    cases edit with
    | resetSelection =>
      rw [Session.edit, LessonPage.resetSelection_eq]
      cases errand <;> rfl
    | clearSelection =>
      cases errand with
      | playgroundRun => exact absurd ⟨rfl, rfl⟩ kept
      | load | lessonRun | compile => rfl
    | setSelection | toggleSolution | form | share => cases errand <;> rfl

/-- The first step of a call of the lesson page begins to wait on the panel of its own errand. -/
theorem tells_of_lessonBegins {g : Stage} {errand : Errand} {call : LessonPage.Call}
    {step : LessonPage.Step} (called : g.event = .call (.lesson call))
    (begins : LessonPage.Begins g.time g.before.lesson g.before.shared call step)
    (takes : g.TakesLesson g.before.calls.length step)
    (uncomplained : g.complaint? errand = none) : g.Tells errand := by
  -- By the ways a call begins: two of them start an errand, and the others touch no panel.
  have unended : ∀ number outcome, g.Ends errand number outcome → outcome = .superseded :=
    fun _ _ ends => absurd ends (not_ends_of_call called)
  cases begins with
  | loads =>
    cases errand with
    | load => exact .starts ⟨_, _, _, called, takes.taken, rfl⟩ (takes.panel _)
    | lessonRun | compile | playgroundRun => exact takes.tells uncomplained unended rfl rfl
  | runs =>
    cases errand with
    | lessonRun => exact .starts ⟨_, _, _, called, takes.taken, rfl⟩ (takes.panel _)
    | load | compile | playgroundRun => exact takes.tells uncomplained unended rfl rfl
  | routed | asked | skipped | toggled | unbound => exact takes.tells uncomplained unended rfl rfl

/-- A later step of a call of the lesson page tells what came of its own errand, and a lesson that
is shown wipes what was told of a selector. -/
theorem tells_of_lessonGoesOn {g : Stage} {errand : Errand} {number : Nat} {answers : Answers}
    {on : LessonPage.Waiting} {step : LessonPage.Step} (arrived : g.event = .arrival number answers)
    (waits : g.before.waiting? number = some (.lesson on))
    (goesOn : LessonPage.GoesOn g.time answers g.before.lesson g.before.shared on step)
    (takes : g.TakesLesson number step) (uncomplained : g.complaint? errand = none) :
    g.Tells errand := by
  -- What ends here is the errand of the call that is answered, and it ends with its result.
  have ended {number' outcome} (ends : g.Ends errand number' outcome) :=
    takes.ends arrived waits ends
  have other {mine ticket} (holds : on.held? = some (mine, ticket)) (different : mine ≠ errand)
      (number' : Nat) (outcome : Outcome) : ¬ g.Ends errand number' outcome := fun ends =>
    different (ends.errand_eq arrived waits holds)
  cases goesOn with
  | found | fetched | seeks =>
    refine takes.tells uncomplained (fun number' outcome ends => ?_) rfl rfl
    obtain ⟨-, result, finished, came⟩ := ended ends
    cases finished <;> cases came
  | lost answered =>
    cases errand with
    | load => simp [complaint?, arrived, waits, answered] at uncomplained
    | lessonRun | compile | playgroundRun =>
      refine takes.tells uncomplained (fun number' outcome ends => ?_) rfl rfl
      obtain ⟨-, result, finished, came⟩ := ended ends
      cases finished
      cases came
  | late _ _ _ dropped =>
    refine takes.tells uncomplained (fun number' outcome ends => ?_) rfl rfl
    obtain ⟨-, result, finished, came⟩ := ended ends
    cases finished
    exact Option.some.inj (came.symm.trans dropped)
  | applied obtained =>
    have ends : g.Ends .load number .applied :=
      ⟨answers, _, _, _, arrived, waits, obtained.holds, takes.taken, rfl⟩
    cases errand with
    | load => exact .applied ends (takes.panel _)
    | lessonRun =>
      -- The selector was run on a lesson that is not shown any more.
      exact .wiped (.inr ⟨number, ends⟩) (fun _ => not_starts_of_arrival arrived)
        (other obtained.holds nofun) (takes.panel _)
    | compile | playgroundRun =>
      exact takes.tells uncomplained (fun _ _ ends => absurd ends (other obtained.holds nofun _ _))
        rfl rfl
  | failed holds =>
    cases errand with
    | load =>
      exact .failed ⟨answers, _, _, _, arrived, waits, holds, takes.taken, rfl⟩ (takes.panel _)
    | lessonRun | compile | playgroundRun =>
      exact takes.tells uncomplained (fun _ _ ends => absurd ends (other holds nofun _ _)) rfl rfl
  | selected =>
    cases errand with
    | lessonRun =>
      exact .applied ⟨answers, _, _, _, arrived, waits, rfl, takes.taken, rfl⟩ (takes.panel _)
    | load | compile | playgroundRun =>
      exact takes.tells uncomplained (fun _ _ ends => absurd ends (other rfl nofun _ _)) rfl rfl
  | refused =>
    cases errand with
    | lessonRun =>
      exact .failed ⟨answers, _, _, _, arrived, waits, rfl, takes.taken, rfl⟩ (takes.panel _)
    | load | compile | playgroundRun =>
      exact takes.tells uncomplained (fun _ _ ends => absurd ends (other rfl nofun _ _)) rfl rfl

/-- The first step of a call of the playground begins to wait on the panel of its own errand. -/
theorem tells_of_playgroundBegins {g : Stage} {errand : Errand} {call : Playground.Call}
    {step : Playground.Step} (called : g.event = .call (.playground call))
    (begins : Playground.Begins g.before.playground g.before.shared call step)
    (takes : g.TakesPlayground g.before.calls.length step)
    (uncomplained : g.complaint? errand = none) : g.Tells errand := by
  -- By the ways a call begins: two of them start an errand, and the two that are turned down would
  -- be complaints.
  have unended : ∀ number outcome, g.Ends errand number outcome → outcome = .superseded :=
    fun _ _ ends => absurd ends (not_ends_of_call called)
  cases begins with
  | compiles =>
    cases errand with
    | compile => exact .starts ⟨_, _, _, called, takes.taken, rfl⟩ (takes.panel _)
    | load | lessonRun | playgroundRun => exact takes.tells uncomplained unended rfl rfl
  | runs =>
    cases errand with
    | playgroundRun => exact .starts ⟨_, _, _, called, takes.taken, rfl⟩ (takes.panel _)
    | load | lessonRun | compile => exact takes.tells uncomplained unended rfl rfl
  | unsupported chosen wrong =>
    cases errand with
    | compile =>
      simp [complaint?, called, Playground.faultOfFile?, chosen, wrong] at uncomplained
    | load | lessonRun | playgroundRun => exact takes.tells uncomplained unended rfl rfl
  | unreadable has typed faulty =>
    cases errand with
    | playgroundRun =>
      simp [complaint?, called, Playground.faultOfBounds?, has, typed, faulty] at uncomplained
    | load | lessonRun | compile => exact takes.tells uncomplained unended rfl rfl
  | prepared =>
    refine takes.tells uncomplained unended ?_ ?_
    · rw [Playground.preselect_eq]
      cases errand <;> rfl
    · rw [Playground.preselect_eq]
      cases errand <;> rfl
  | asked | skipped => exact takes.tells uncomplained unended rfl rfl

/-- A later step of a call of the playground tells what came of its own errand, and a model that is
shown wipes what was told of a selector. -/
theorem tells_of_playgroundGoesOn {g : Stage} {errand : Errand} {number : Nat} {answers : Answers}
    {on : Playground.Waiting} {step : Playground.Step} (arrived : g.event = .arrival number answers)
    (waits : g.before.waiting? number = some (.playground on))
    (goesOn : Playground.GoesOn g.time answers g.before.playground g.before.shared on step)
    (takes : g.TakesPlayground number step) (uncomplained : g.complaint? errand = none) :
    g.Tells errand := by
  -- As on the lesson page, with a compilation in the place of a load.
  have ended {number' outcome} (ends : g.Ends errand number' outcome) :=
    takes.ends arrived waits ends
  have other {mine ticket} (holds : on.held? = some (mine, ticket)) (different : mine ≠ errand)
      (number' : Nat) (outcome : Outcome) : ¬ g.Ends errand number' outcome := fun ends =>
    different (ends.errand_eq arrived waits holds)
  cases goesOn with
  | asked =>
    refine takes.tells uncomplained (fun number' outcome ends => ?_) rfl rfl
    obtain ⟨-, result, finished, came⟩ := ended ends
    cases finished
  | prepared =>
    refine takes.tells uncomplained (fun number' outcome ends => ?_) ?_ ?_
    · obtain ⟨-, result, finished, came⟩ := ended ends
      cases finished
      cases came
    · rw [Playground.preselect_eq]
      cases errand <;> rfl
    · rw [Playground.preselect_eq]
      cases errand <;> rfl
  | late =>
    refine takes.tells uncomplained (fun number' outcome ends => ?_) rfl rfl
    obtain ⟨-, result, finished, came⟩ := ended ends
    cases finished
    exact (Option.some.inj came).symm
  | applied =>
    have ends : g.Ends .compile number .applied :=
      ⟨answers, _, _, _, arrived, waits, rfl, takes.taken, rfl⟩
    cases errand with
    | compile => exact .applied ends (takes.panel _)
    | playgroundRun =>
      exact .wiped (.inr (.inl ⟨number, ends⟩)) (fun _ => not_starts_of_arrival arrived)
        (other rfl nofun) (takes.panel _)
    | load | lessonRun =>
      exact takes.tells uncomplained (fun _ _ ends => absurd ends (other rfl nofun _ _)) rfl rfl
  | failed =>
    cases errand with
    | compile =>
      exact .failed ⟨answers, _, _, _, arrived, waits, rfl, takes.taken, rfl⟩ (takes.panel _)
    | load | lessonRun | playgroundRun =>
      exact takes.tells uncomplained (fun _ _ ends => absurd ends (other rfl nofun _ _)) rfl rfl
  | selected =>
    cases errand with
    | playgroundRun =>
      exact .applied ⟨answers, _, _, _, arrived, waits, rfl, takes.taken, rfl⟩ (takes.panel _)
    | load | lessonRun | compile =>
      exact takes.tells uncomplained (fun _ _ ends => absurd ends (other rfl nofun _ _)) rfl rfl
  | refused =>
    cases errand with
    | playgroundRun =>
      exact .failed ⟨answers, _, _, _, arrived, waits, rfl, takes.taken, rfl⟩ (takes.panel _)
    | load | lessonRun | compile =>
      exact takes.tells uncomplained (fun _ _ ends => absurd ends (other rfl nofun _ _)) rfl rfl

/-- Lessons that cannot be fetched for want of a lesson to go to are complained of on the panel of
the lesson. -/
theorem tells_of_lost {g : Stage} {message : String}
    (complaint : g.complaint? .load = some message) : g.Tells .load := by
  -- The answer ends a call that looked for the first lesson, and such a call is on no errand.
  have complained := complaint
  simp only [complaint?] at complaint
  split at complaint
  · next number answers arrived =>
    split at complaint
    · next error waits answered =>
      cases complaint
      obtain ⟨step, goesOn, takes⟩ := goesOn_of_lesson arrived waits
      have unended (number' outcome) : ¬ g.Ends .load number' outcome := by
        intro ends
        obtain ⟨⟨ticket, holds⟩, -⟩ := ends.of_arrival arrived waits
        cases holds
      cases goesOn with
      | lost answered' =>
        rw [answered] at answered'
        cases answered'
        exact .complains complained unended (takes.reached _) (takes.panel _)
      | found answered' => simp [answered] at answered'
      | seeks holds | failed holds | late holds => cases holds
      | applied obtained => cases obtained.holds
    · cases complaint
  · cases complaint

/-- A file that is turned down is complained of on the panel of the model. -/
theorem tells_of_faultOfFile {g : Stage} {message : String}
    (complaint : g.complaint? .compile = some message) : g.Tells .compile := by
  -- By what the call does first; only one way fits the complaint.
  have complained := complaint
  simp only [complaint?] at complaint
  split at complaint
  · next called =>
    obtain ⟨file, chosen, wrong, rfl⟩ := Playground.faultOfFile?_eq_some_iff.1 complaint
    obtain ⟨step, begins, takes⟩ := begins_of_playground called
    cases begins with
    | unsupported =>
      exact .complains complained (fun _ _ => not_ends_of_call called) (takes.reached _)
        (takes.panel _)
    | compiles chosen' suited =>
      -- No file of the wrong kind is compiled.
      rw [chosen, Option.some.injEq] at chosen'
      rw [suited file chosen'.symm] at wrong
      cases wrong
    | skipped lacking => simp [chosen] at lacking
  · cases complaint

/-- A bound that is turned down is complained of on the panel of the selector. -/
theorem tells_of_faultOfBounds {g : Stage} {message : String}
    (complaint : g.complaint? .playgroundRun = some message) : g.Tells .playgroundRun := by
  -- By what the call does first; only one way fits the complaint.
  have complained := complaint
  simp only [complaint?] at complaint
  split at complaint
  · next called =>
    obtain ⟨model, fault, has, typed, faulty, rfl⟩ :=
      Playground.faultOfBounds?_eq_some_iff.1 complaint
    obtain ⟨step, begins, takes⟩ := begins_of_playground called
    cases begins with
    | unreadable _ _ faulty' =>
      rw [faulty] at faulty'
      cases faulty'
      exact .complains complained (fun _ _ => not_ends_of_call called) (takes.reached _)
        (takes.panel _)
    | runs _ _ read =>
      -- Nothing is selected within bounds that cannot be read.
      rw [faulty] at read
      cases read
    | skipped lacking => simp [has, typed] at lacking
  · cases complaint

/-- Every stage does one of these things to the panel of an errand. -/
theorem tells (g : Stage) (errand : Errand) : g.Tells errand := by
  -- With a complaint it is one of three that there are; without one, by what may happen at a stage.
  cases complained : g.complaint? errand with
  | some message =>
    cases errand with
    | load => exact tells_of_lost complained
    | lessonRun => cases complained
    | compile => exact tells_of_faultOfFile complained
    | playgroundRun => exact tells_of_faultOfBounds complained
  | none =>
    cases g.course with
    | lists fetches => exact fetches.tells complained
    | edits edited => exact tells_of_edit edited complained
    | lessonBegins called begins takes => exact tells_of_lessonBegins called begins takes complained
    | lessonGoesOn arrived waits goesOn takes =>
      exact tells_of_lessonGoesOn arrived waits goesOn takes complained
    | playgroundBegins called begins takes =>
      exact tells_of_playgroundBegins called begins takes complained
    | playgroundGoesOn arrived waits goesOn takes =>
      exact tells_of_playgroundGoesOn arrived waits goesOn takes complained

/-- An errand that starts begins to wait on its panel. -/
theorem Starts.panel {g : Stage} {errand : Errand} {number : Nat}
    (starts : g.Starts errand number) : g.after.panel errand = { isLoading := true } := by
  -- Of the ways to tell of an errand only one leaves it started.
  obtain ⟨call, _, _, called, -⟩ := id starts
  have overtakes : g.Overtakes errand := (g.overtakes_iff errand).2 (.inl ⟨number, starts⟩)
  cases g.tells errand with
  | starts _ panel => exact panel
  | applied ends | failed ends => exact absurd ends (not_ends_of_call called)
  | wiped _ unstarted => exact absurd starts (unstarted number)
  | complains _ _ reached | keeps _ _ reached =>
    exact absurd overtakes (not_overtakes_of_reached reached)

/-- An errand that was applied makes its panel wait no more. -/
theorem Ends.panel {g : Stage} {errand : Errand} {number : Nat}
    (ends : g.Ends errand number .applied) :
    g.after.panel errand = (g.before.panel errand).succeed := by
  -- By what the stage tells the panel.
  cases g.tells errand with
  | starts starts =>
    obtain ⟨call, _, _, called, -⟩ := starts
    exact absurd ends (not_ends_of_call called)
  | applied _ panel => exact panel
  | failed fails =>
    -- One answer has one outcome.
    cases fails.outcome_eq ends
  | wiped _ _ unended | complains _ unended => exact absurd ends (unended _ _)
  | keeps _ unended => cases unended _ _ ends

end Stage

end Session

end SelectorTutorial
