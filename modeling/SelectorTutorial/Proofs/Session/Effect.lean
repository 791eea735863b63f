import SelectorTutorial.Proofs.Session.Staleness

/-! What a stage does to the models of the pages, and to the model and the result they share. -/

namespace SelectorTutorial

namespace Page

/-- The errand that puts another model on a page. -/
def swap : Page → Errand
  | lesson => .load
  | playground => .compile

/-- The errand that selects something of the model of a page. -/
def run : Page → Errand
  | lesson => .lessonRun
  | playground => .playgroundRun

/-- To swap the model of a page is an errand of that page. -/
@[simp] theorem swap_page (page : Page) : page.swap.page = page := by
  -- Page by page.
  cases page <;> rfl

/-- To run the selector of a page is an errand of that page. -/
@[simp] theorem run_page (page : Page) : page.run.page = page := by
  -- Page by page.
  cases page <;> rfl

/-- What swaps the model of a page makes its run late. -/
@[simp] theorem swap_rival (page : Page) : page.swap.rival = some page.run := by
  -- Page by page.
  cases page <;> rfl

/-- What a call waits for that selects something of the model of a page. -/
def selecting : Page → Ticket → Selection.Request → Session.Waiting
  | lesson, ticket, request => .lesson (.selection ticket request)
  | playground, ticket, request => .playground (.selection ticket request)

/-- A run that waits for its result is on the errand of its page and holds a ticket. -/
@[simp] theorem selecting_held? (page : Page) (ticket : Ticket) (request : Selection.Request) :
    (page.selecting ticket request).held? = some (page.run, ticket) := by
  -- Page by page.
  cases page <;> rfl

end Page

namespace Session

/-- The model of a page. -/
def model? (s : Session) : Page → Option Model
  | .lesson => s.lesson.model
  | .playground => s.playground.model

/-- A request to select something comes from a page. -/
theorem Waiting.eq_selecting {on : Waiting} {request : Selection.Request}
    (asks : on.call = .select request) :
    ∃ (page : Page) (ticket : Ticket), on = page.selecting ticket request := by
  -- Each page has one kind of call that asks for a selection.
  cases on with
  | lessons => cases asks
  | catalog on => cases on <;> cases asks
  | lesson on =>
    cases on <;> cases asks
    exact ⟨.lesson, _, rfl⟩
  | playground on =>
    cases on with
    | catalog on => cases on <;> cases asks
    | compile ticket source => cases asks
    | selection ticket request =>
      cases asks
      exact ⟨.playground, _, rfl⟩

/-- The page on which something is asked, if it is asked of a page. -/
def Event.page? : Event → Option Page
  | .call (.lesson _) => some .lesson
  | .call (.playground _) => some .playground
  | .call .ensureLessons => none
  | .call .ensureCatalog => none
  | .edit (.setSelection _) => some .lesson
  | .edit .resetSelection => some .lesson
  | .edit .toggleSolution => some .lesson
  | .edit .clearSelection => some .playground
  | .edit (.form _) => some .playground
  | .edit (.share _) => none
  | .arrival _ _ => none

/-- Whether an event changes the model or the result that is shared, and goes past both pages. -/
def Event.meddles : Event → Bool
  | .edit (.share (.model _)) => true
  | .edit (.share (.result _)) => true
  | _ => false

namespace Stage

/-- A stage at which the answer to a request that a page sent becomes the result that is shared. -/
def Selects (g : Stage) (page : Page) (request : Selection.Request) (result : Selection.Result) :
    Prop :=
  ∃ number answers ticket, g.event = .arrival number answers ∧
    g.before.waiting? number = some (page.selecting ticket request) ∧
    (g.before.tickets page).isCurrent ticket = true ∧ answers (.select request) = .ok result

/-- All that a stage can do to the models and to the result that is shared. -/
inductive Effect (g : Stage) : Prop
  /-- They stay what they are. -/
  | keeps (models : ∀ page, g.after.model? page = g.before.model? page)
      (model : g.after.shared.model = g.before.shared.model)
      (result : g.after.shared.result = g.before.shared.result)
      (unselected : ∀ page request result, ¬ g.Selects page request result)
  /-- The result is let go. -/
  | clears (cleared : g.event = .edit .clearSelection)
      (models : ∀ page, g.after.model? page = g.before.model? page)
      (model : g.after.shared.model = g.before.shared.model)
      (result : g.after.shared.result = none)
  /-- A page shows another model, and there is no result of it yet. -/
  | swaps {page number} (ends : g.Ends page.swap number .applied)
      (others : ∀ other, other ≠ page → g.after.model? other = g.before.model? other)
      (model : g.after.shared.model = g.after.model? page)
      (result : g.after.shared.result = none)
  /-- Something was selected. -/
  | selects {page request result} (selects : g.Selects page request result)
      (models : ∀ page, g.after.model? page = g.before.model? page)
      (model : g.after.shared.model = g.before.shared.model)
      (result : g.after.shared.result = some result)

/-- What selects something ends a run that was applied. -/
theorem Selects.ends {g : Stage} {page : Page} {request : Selection.Request}
    {result : Selection.Result} (selects : g.Selects page request result) :
    ∃ number, g.Ends page.run number .applied := by
  -- The ticket counts and the answer is there, which settles how the step goes.
  obtain ⟨number, answers, ticket, arrived, waits, current, answered⟩ := selects
  have taken := (of_arrival arrived waits).2
  cases page with
  | lesson =>
    refine ⟨number, answers, _, ticket, .lesson (.done .applied), arrived, waits, rfl, ?_, rfl⟩
    rw [taken]
    simp only [tickets] at current
    simp [goOn, Page.selecting, withLesson, LessonPage.resume, current, answered, Progress.map]
  | playground =>
    refine ⟨number, answers, _, ticket, .playground (.done .applied), arrived, waits, rfl, ?_, rfl⟩
    rw [taken]
    simp only [tickets] at current
    simp [goOn, Page.selecting, withPlayground, Playground.resume, current, answered, Progress.map]

/-- A stage applies no errand unless it applies what a call was to do. -/
theorem not_ends_of_unapplied {g : Stage} {number : Nat} {progress : Progress Waiting Result}
    (taken : g.call? = some (number, progress))
    (unapplied : ∀ result, progress = .finished result → result.outcome? ≠ some .applied)
    (errand : Errand) (other : Nat) : ¬ g.Ends errand other .applied := by
  -- A stage is about one call only.
  intro ends
  obtain ⟨_, _, _, result, -, -, -, taken', came⟩ := ends
  rw [taken] at taken'
  cases taken'
  exact unapplied result rfl came

/-- A stage selects nothing unless it applies what a call was to do. -/
theorem not_selects {g : Stage} {number : Nat} {progress : Progress Waiting Result}
    (taken : g.call? = some (number, progress))
    (unapplied : ∀ result, progress = .finished result → result.outcome? ≠ some .applied)
    (page : Page) (request : Selection.Request) (result : Selection.Result) :
    ¬ g.Selects page request result := by
  -- What selects something ends its call, and ends it as applied.
  intro selects
  obtain ⟨other, ends⟩ := selects.ends
  exact not_ends_of_unapplied taken unapplied _ other ends

/-- What happens to neither model and to nothing that is shared but the lists has no effect. -/
theorem effect_of_same {g : Stage} (lesson : g.after.lesson.model = g.before.lesson.model)
    (playground : g.after.playground.model = g.before.playground.model)
    (model : g.after.shared.model = g.before.shared.model)
    (result : g.after.shared.result = g.before.shared.result)
    (unselected : ∀ page request result, ¬ g.Selects page request result) : Effect g := by
  -- This is said of each page, and there are two.
  refine .keeps ?_ model result unselected
  intro page
  cases page with
  | lesson => exact lesson
  | playground => exact playground

/-- Only an answer selects something. -/
theorem not_selects_of_isCall {g : Stage} (asked : g.event.isCall = true) (page : Page)
    (request : Selection.Request) (result : Selection.Result) :
    ¬ g.Selects page request result := by
  -- What selects something is an arrival.
  intro selects
  obtain ⟨_, _, _, arrived, -⟩ := selects
  rw [arrived] at asked
  cases asked

/-- A step of the lesson page that keeps its model, and model and result that are shared, has no
effect. -/
theorem TakesLesson.effect {g : Stage} {number : Nat} {step : LessonPage.Step}
    (takes : g.TakesLesson number step) (page : step.page.model = g.before.lesson.model)
    (model : step.shared.model = g.before.shared.model)
    (result : step.shared.result = g.before.shared.result)
    (unselected : ∀ page request result, ¬ g.Selects page request result) : Effect g := by
  -- What the stage leaves is the step, but for the playground, which stays.
  refine effect_of_same ?_ ?_ ?_ ?_ unselected
  · rw [takes.lesson, page]
  · rw [takes.playground]
  · rw [takes.shared, model]
  · rw [takes.shared, result]

/-- A step of the playground that keeps its model, and model and result that are shared, has no
effect. -/
theorem TakesPlayground.effect {g : Stage} {number : Nat} {step : Playground.Step}
    (takes : g.TakesPlayground number step) (page : step.page.model = g.before.playground.model)
    (model : step.shared.model = g.before.shared.model)
    (result : step.shared.result = g.before.shared.result)
    (unselected : ∀ page request result, ¬ g.Selects page request result) : Effect g := by
  -- What the stage leaves is the step, but for the lesson page, which stays.
  refine effect_of_same ?_ ?_ ?_ ?_ unselected
  · rw [takes.lesson]
  · rw [takes.playground, page]
  · rw [takes.shared, model]
  · rw [takes.shared, result]

/-- Of the edits only the one that lets a selection go has an effect. -/
theorem effect_of_edit {g : Stage} {edit : Edit} (unmeddled : g.event.meddles = false)
    (edited : g.event = .edit edit) : Effect g := by
  -- The other edits change texts, lists or the mode, and neither model nor result.
  have after := (of_edit edited).1
  have unselected := not_selects_of_isCall (by rw [edited]; rfl)
  cases edit with
  | clearSelection =>
    refine .clears edited ?_ (by rw [after]; rfl) (by rw [after]; rfl)
    intro page
    rw [after]
    cases page <;> rfl
  | resetSelection =>
    refine effect_of_same ?_ (by rw [after]; rfl) (by rw [after]; rfl) (by rw [after]; rfl)
      unselected
    rw [after, Session.edit, LessonPage.resetSelection_eq]
  | share change =>
    cases change with
    | model model | result result => simp [edited, Event.meddles] at unmeddled
    | lessons | examples | mode =>
      exact effect_of_same (by rw [after]; rfl) (by rw [after]; rfl) (by rw [after]; rfl)
        (by rw [after]; rfl) unselected
  | setSelection | toggleSolution | form =>
    exact effect_of_same (by rw [after]; rfl) (by rw [after]; rfl) (by rw [after]; rfl)
      (by rw [after]; rfl) unselected

/-- An answer to a call of the lesson page has an effect when it completes a load or a run. -/
theorem effect_of_lesson {g : Stage} {number : Nat} {answers : Answers} {on : LessonPage.Waiting}
    (arrived : g.event = .arrival number answers)
    (waits : g.before.waiting? number = some (.lesson on)) : Effect g := by
  -- A load that is applied swaps the model, a run that is applied selects, and no more.
  obtain ⟨step, goesOn, takes⟩ := goesOn_of_lesson arrived waits
  cases goesOn with
  | @applied _ ticket _ _ obtained current =>
    have ends : g.Ends Page.lesson.swap number .applied :=
      ⟨answers, _, ticket, _, arrived, waits, obtained.holds, takes.taken, rfl⟩
    refine .swaps ends ?_ (by rw [takes.shared, model?, takes.lesson]; rfl)
      (by rw [takes.shared]; rfl)
    intro other different
    cases other with
    | lesson => exact absurd rfl different
    | playground => exact congrArg Playground.model takes.playground
  | selected current answered =>
    have selects : g.Selects .lesson _ _ := ⟨_, _, _, arrived, waits, current, answered⟩
    refine .selects selects ?_ (by rw [takes.shared]; rfl) (by rw [takes.shared]; rfl)
    intro page
    cases page with
    | lesson => exact (congrArg LessonPage.model takes.lesson).trans rfl
    | playground => exact congrArg Playground.model takes.playground
  | found | lost | fetched | seeks | refused =>
    refine takes.effect rfl rfl rfl (not_selects takes.taken fun result finished came => ?_)
    cases finished <;> cases came
  | failed _ _ lists =>
    have fetched := lists.sameButLessons.sameButLists
    refine takes.effect rfl fetched.model_eq fetched.result_eq
      (not_selects takes.taken fun result finished came => ?_)
    cases finished
    cases came
  | late _ _ lists dropped =>
    have fetched := lists.sameButLessons.sameButLists
    refine takes.effect rfl fetched.model_eq fetched.result_eq
      (not_selects takes.taken fun result finished came => ?_)
    cases finished
    rw [Result.outcome?, dropped] at came
    cases came

/-- An answer to a call of the playground has an effect when it completes a compilation or a run. -/
theorem effect_of_playground {g : Stage} {number : Nat} {answers : Answers}
    {on : Playground.Waiting} (arrived : g.event = .arrival number answers)
    (waits : g.before.waiting? number = some (.playground on)) : Effect g := by
  -- As on the lesson page, with a compilation in the place of a load.
  obtain ⟨step, goesOn, takes⟩ := goesOn_of_playground arrived waits
  cases goesOn with
  | @applied ticket _ _ current answered =>
    have ends : g.Ends Page.playground.swap number .applied :=
      ⟨answers, _, ticket, _, arrived, waits, rfl, takes.taken, rfl⟩
    refine .swaps ends ?_ (by rw [takes.shared, model?, takes.playground]; rfl)
      (by rw [takes.shared]; rfl)
    intro other different
    cases other with
    | lesson => exact congrArg LessonPage.model takes.lesson
    | playground => exact absurd rfl different
  | selected current answered =>
    have selects : g.Selects .playground _ _ := ⟨_, _, _, arrived, waits, current, answered⟩
    refine .selects selects ?_ (by rw [takes.shared]; rfl) (by rw [takes.shared]; rfl)
    intro page
    cases page with
    | lesson => exact congrArg LessonPage.model takes.lesson
    | playground => exact (congrArg Playground.model takes.playground).trans rfl
  | asked lists =>
    refine takes.effect rfl lists.model_eq lists.result_eq
      (not_selects takes.taken fun result finished came => ?_)
    cases finished
  | prepared lists =>
    -- The example that is chosen stands in the form, and is not compiled yet.
    refine takes.effect (Playground.preselect_model ..) lists.model_eq lists.result_eq
      (not_selects takes.taken fun result finished came => ?_)
    cases finished
    cases came
  | failed | refused | late =>
    refine takes.effect rfl rfl rfl (not_selects takes.taken fun result finished came => ?_)
    cases finished
    cases came

/-- Every stage at which nobody meddles does one of these things. -/
theorem effect {g : Stage} (unmeddled : g.event.meddles = false) : Effect g := by
  -- First steps only ask for things; whatever has an effect comes with an answer or an edit.
  cases g.course with
  | lists fetches =>
    refine effect_of_same (by rw [fetches.lesson]) (by rw [fetches.playground])
      fetches.shared.model_eq fetches.shared.result_eq ?_
    intro page request result selects
    -- A call for the lists alone selects nothing.
    obtain ⟨number, ends⟩ := selects.ends
    exact fetches.not_ends ends
  | edits edited => exact effect_of_edit unmeddled edited
  | lessonBegins called begins takes =>
    have unselected := not_selects_of_isCall (by rw [called]; rfl)
    cases begins <;> exact takes.effect rfl rfl rfl unselected
  | lessonGoesOn arrived waits => exact effect_of_lesson arrived waits
  | playgroundBegins called begins takes =>
    have unselected := not_selects_of_isCall (by rw [called]; rfl)
    cases begins with
    | prepared =>
      exact takes.effect (Playground.preselect_model ..) rfl rfl unselected
    | asked | skipped | unsupported | compiles | unreadable | runs =>
      exact takes.effect rfl rfl rfl unselected
  | playgroundGoesOn arrived waits => exact effect_of_playground arrived waits

end Stage

end Session

end SelectorTutorial
