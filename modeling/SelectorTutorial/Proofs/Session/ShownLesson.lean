import SelectorTutorial.Proofs.Session.CurrentResult

/-! The page shows the lesson of the last load that was applied, and what was typed since. -/

namespace SelectorTutorial

/-- At most the tickets of a lesson page have changed, and what it tells of its calls. -/
def LessonPage.SameContent (old new : LessonPage) : Prop :=
  new = { old with
    status := new.status, selectionStatus := new.selectionStatus, tickets := new.tickets }

namespace Session

/-- What stands in the editor after an event, beside a lesson or beside none. -/
def Event.retyped (lesson : Option Lesson) (text : String) : Event → String
  | .edit (.setSelection typed) => typed
  -- Beside no lesson there is nothing to put back, and the text stays.
  | .edit .resetSelection => (lesson.map (·.startingSelection)).getD text
  | _ => text

/-- Whether an event shows the solution or hides it. -/
def Event.togglesSolution : Event → Bool
  | .edit .toggleSolution => true
  | _ => false

namespace Stage

/-- All that a stage can do to what the page of a lesson shows. -/
inductive Content (g : Stage) : Prop
  /-- At most something is typed or toggled. -/
  | keeps (lesson : g.after.lesson.lesson = g.before.lesson.lesson)
      (model : g.after.lesson.model = g.before.lesson.model)
      (selection : g.after.lesson.selection =
        g.event.retyped g.before.lesson.lesson g.before.lesson.selection)
      (solution : g.after.lesson.showsSolution =
        (g.before.lesson.showsSolution ^^ g.event.togglesSolution))
      (unapplied : ∀ number, ¬ g.Ends .load number .applied)
  /-- A lesson takes the place of the one before. -/
  | loads {number answers on ticket lesson model} (arrived : g.event = .arrival number answers)
      (waits : g.before.waiting? number = some (.lesson on))
      (obtained : LessonPage.Obtains answers on ticket lesson model)
      (ends : g.Ends .load number .applied)
      (shows : g.after.lesson = g.before.lesson.showing lesson model)

/-- Without an edit, what stays on the page stays as it was typed and toggled. -/
theorem content_of_same {g : Stage} (unedited : ∀ edit, g.event ≠ .edit edit)
    (same : g.before.lesson.SameContent g.after.lesson)
    (unapplied : ∀ number, ¬ g.Ends .load number .applied) : Content g := by
  -- What is no edit types and toggles nothing.
  refine .keeps (by rw [same]) (by rw [same]) ?_ ?_ unapplied
  · rw [same]
    cases event : g.event with
    | edit edit => exact absurd event (unedited edit)
    | call | arrival => rfl
  · rw [same]
    cases event : g.event with
    | edit edit => exact absurd event (unedited edit)
    | call | arrival => exact (Bool.xor_false _).symm

/-- An edit types or toggles exactly what it says. -/
theorem content_of_edit {g : Stage} {edit : Edit} (edited : g.event = .edit edit) : Content g := by
  -- Edits of the playground and of what is shared do not reach the lesson page.
  have after := (of_edit edited).1
  have unapplied : ∀ number, ¬ g.Ends .load number .applied := fun number =>
    not_ends_of_edit edited
  cases edit with
  | resetSelection =>
    rw [Session.edit] at after
    refine .keeps ?_ ?_ ?_ ?_ unapplied <;> rw [after]
    · rw [LessonPage.resetSelection_eq]
    · rw [LessonPage.resetSelection_eq]
    · rw [edited, Event.retyped, LessonPage.resetSelection]
      cases g.before.lesson.lesson <;> rfl
    · rw [LessonPage.resetSelection_eq, edited]
      exact (Bool.xor_false _).symm
  | toggleSolution =>
    refine .keeps (by rw [after]; rfl) (by rw [after]; rfl) (by rw [after, edited]; rfl) ?_
      unapplied
    rw [after, edited]
    exact (Bool.xor_true _).symm
  | setSelection | clearSelection | form | share =>
    refine .keeps (by rw [after]; rfl) (by rw [after]; rfl) (by rw [after, edited]; rfl) ?_
      unapplied
    rw [after, edited]
    exact (Bool.xor_false _).symm

/-- A later step of a call shows a lesson when it completes a load, and else nothing new. -/
theorem content_of_lesson {g : Stage} {number : Nat} {answers : Answers} {on : LessonPage.Waiting}
    (arrived : g.event = .arrival number answers)
    (waits : g.before.waiting? number = some (.lesson on)) : Content g := by
  -- Only a load that is applied shows anything new; the other steps do not end one so.
  obtain ⟨step, goesOn, ⟨lesson, -, -, taken⟩⟩ := goesOn_of_lesson arrived waits
  have unedited : ∀ edit, g.event ≠ .edit edit := by simp [arrived]
  -- What would end here as applied is the load of the call that is answered.
  have ended {number'} (ends : g.Ends .load number' .applied) :
      (∃ ticket, on.held? = some (.load, ticket)) ∧
        ∃ result, step.progress = .finished result ∧ result.outcome? = some .applied := by
    obtain ⟨held, result, finished, came⟩ := ends.of_arrival arrived waits
    rw [taken, Option.some.injEq, Prod.mk.injEq] at finished
    obtain ⟨mine, ended, rfl⟩ := Progress.map_eq_finished.1 finished.2
    exact ⟨held, mine, ended, came⟩
  cases goesOn with
  | applied obtained =>
    have ends : g.Ends .load number .applied :=
      ⟨answers, _, _, _, arrived, waits, obtained.holds, taken, rfl⟩
    exact .loads arrived waits obtained ends lesson
  | selected =>
    refine content_of_same unedited (by rw [lesson]; rfl) fun number ends => ?_
    obtain ⟨⟨_, holds⟩, -⟩ := ended ends
    cases holds
  | late _ _ _ dropped =>
    refine content_of_same unedited (by rw [lesson]; rfl) fun number ends => ?_
    obtain ⟨-, result, finished, came⟩ := ended ends
    cases finished
    rw [dropped] at came
    cases came
  | found | lost | fetched | seeks | failed | refused =>
    refine content_of_same unedited (by rw [lesson]; rfl) fun number ends => ?_
    obtain ⟨-, result, finished, came⟩ := ended ends
    cases finished <;> cases came

/-- Every stage does one of these things. -/
theorem content (g : Stage) : Content g := by
  -- Calls for the lists and calls of the playground are on no errand of this page.
  cases g.course with
  | lists fetches =>
    have lesson := fetches.lesson
    exact content_of_same fetches.unedited (by rw [lesson]; rfl) fun number => fetches.not_ends
  | edits edited => exact content_of_edit edited
  | lessonBegins called begins takes =>
    have lesson := takes.lesson
    have unapplied : ∀ number, ¬ g.Ends .load number .applied := fun number =>
      not_ends_of_call called
    cases begins <;> exact content_of_same (by simp [called]) (by rw [lesson]; rfl) unapplied
  | lessonGoesOn arrived waits => exact content_of_lesson arrived waits
  | playgroundBegins called begins takes =>
    have lesson := takes.lesson
    exact content_of_same (by simp [called]) (by rw [lesson]; rfl) fun number =>
      not_ends_of_call called
  | playgroundGoesOn arrived waits goesOn takes =>
    have lesson := takes.lesson
    refine content_of_same (by simp [arrived]) (by rw [lesson]; rfl) fun number ends => ?_
    -- A call of the playground is on no errand of the other page.
    obtain ⟨⟨ticket, holds⟩, -⟩ := ends.of_arrival arrived waits
    cases Playground.Waiting.held?_page holds

/-- At a stage the backend gives a call an answer to what it asked for. -/
def Gives (g : Stage) (number : Nat) (call : BackendCall) (answer : call.Answer) : Prop :=
  ∃ answers on, g.event = .arrival number answers ∧ g.before.waiting? number = some on ∧
    on.call = call ∧ answers call = .ok answer

/-- A stage at which a call starts to load a lesson. -/
def Loads (g : Stage) (number : Nat) (id : Lesson.Id) : Prop :=
  g.event = .call (.lesson (.load id)) ∧ g.Starts .load number

end Stage

/-- What has happened to a call of the lesson page that waits: it was started with the id that it
still has, and was given the lesson that it holds. -/
def Explains (past : List Stage) (number : Nat) : LessonPage.Waiting → Prop
  -- The lesson is asked for by the id that the call was made with.
  | .lesson _ id => ∃ g ∈ past, g.Loads number id
  -- The model is asked for by the name that the lesson of that id gives.
  | .model _ id lesson source => (∃ g ∈ past, g.Loads number id) ∧
      (∃ g ∈ past, g.Gives number (.lesson id) lesson) ∧ lesson.model = some source
  -- The other calls show no lesson, and nothing is told of them.
  | .route => True
  | .redirect _ _ _ => True
  | .selection _ _ => True

/-- What has happened once has happened ever after. -/
theorem Explains.append {past : List Stage} {number : Nat} {on : LessonPage.Waiting}
    (explains : Explains past number on) (g : Stage) : Explains (past ++ [g]) number on := by
  -- All that is told of a call is told of some stage of the past.
  cases on with
  | lesson ticket id =>
    obtain ⟨first, member, loads⟩ := explains
    exact ⟨first, List.mem_append_left _ member, loads⟩
  | model ticket id lesson source =>
    obtain ⟨⟨first, member, loads⟩, ⟨middle, member', gives⟩, named⟩ := explains
    exact ⟨⟨first, List.mem_append_left _ member, loads⟩,
      ⟨middle, List.mem_append_left _ member', gives⟩, named⟩
  | route | redirect | selection => trivial

/-- A call that starts to load a lesson waits for that lesson. -/
theorem explains_of_call {g : Stage} {call : Call} {number : Nat} {on : LessonPage.Waiting}
    (past : List Stage) (called : g.event = .call call)
    (taken : g.call? = some (number, .waiting (.lesson on))) :
    Explains (past ++ [g]) number on := by
  -- A load that starts has asked for its lesson, and knows of no model yet.
  cases g.course with
  | lists fetches =>
    have free := (fetches.ticketless _ _ taken).1 _ rfl
    cases on with
    | route => trivial
    | lesson | model | redirect | selection => cases free
  | lessonBegins called' begins takes =>
    obtain ⟨rfl, next, waits, same⟩ := takes.waiting taken
    cases same
    cases begins with
    | loads =>
      cases waits
      exact ⟨g, by simp, called', ⟨_, _, _, called', taken, rfl⟩⟩
    | asked | runs =>
      cases waits
      trivial
    | routed | skipped | toggled | unbound => cases waits
  | playgroundBegins _ _ takes =>
    obtain ⟨-, next, -, same⟩ := takes.waiting taken
    cases same
  | edits other | lessonGoesOn other | playgroundGoesOn other => simp [called] at other

/-- A load whose lesson has come waits for the model of just that lesson. -/
theorem explains_of_arrival {g : Stage} {number : Nat} {answers : Answers} {on : LessonPage.Waiting}
    {past : List Stage} (arrived : g.event = .arrival number answers)
    (explained : ∀ old, g.before.waiting? number = some (.lesson old) → Explains past number old)
    (taken : g.call? = some (number, .waiting (.lesson on))) :
    Explains (past ++ [g]) number on := by
  -- The only way to wait for a model leads through the answer that names it.
  cases g.course with
  | lists fetches =>
    have free := (fetches.ticketless _ _ taken).1 _ rfl
    cases on with
    | route => trivial
    | lesson | model | redirect | selection => cases free
  | lessonGoesOn arrived' waits goesOn takes =>
    obtain ⟨rfl, next, goes, same⟩ := takes.waiting taken
    cases same
    have before := explained _ waits
    cases goesOn with
    | fetched answered named =>
      -- The lesson was given here, to the load that asked for it earlier.
      cases goes
      obtain ⟨first, member, loads⟩ := before
      exact ⟨⟨first, List.mem_append_left _ member, loads⟩,
        ⟨g, by simp, _, _, arrived', waits, rfl, answered⟩, named⟩
    | seeks =>
      cases goes
      trivial
    | found | lost | applied | failed | selected | refused | late => cases goes
  | playgroundGoesOn _ _ _ takes =>
    obtain ⟨-, next, -, same⟩ := takes.waiting taken
    cases same
  | edits other | lessonBegins other | playgroundBegins other => simp [arrived] at other

/-- Whatever a call of the lesson page waits for is explained by what has happened to it. -/
theorem explains_of_waits {s : Session} (idle : s.calls = []) {run : List Moment} {number : Nat}
    {on : LessonPage.Waiting} (waits : (s.after run).waiting? number = some (.lesson on)) :
    Explains (s.stages run) number on := by
  -- At the last stage the call waited already, was started, or was answered.
  induction run using List.reverseRecOn generalizing on with
  | nil => simp [waiting?, idle] at waits
  | append_singleton run m ih =>
    rw [after_append] at waits
    rw [stages_append]
    rcases Stage.waits_after (g := (s.after run).stage m) waits with ⟨waits, -⟩ |
      ⟨call, called, -, taken⟩ | ⟨answers, old, arrived, -, taken⟩
    · exact (ih waits).append _
    · exact explains_of_call _ called taken
    · exact explains_of_arrival arrived (fun old waited => ih waited) taken

/-- What stands in the editor once a lesson is shown. -/
def startingText (lesson : Option Lesson) : String :=
  (lesson.map (·.startingSelection)).getD ""

/-- A page shows a lesson with its model, and what was typed and toggled since then. -/
structure Replays (page : LessonPage) (lesson : Option Lesson) (model : Option Model)
    (since : List Stage) : Prop where
  /-- The lesson is shown. -/
  lesson_eq : page.lesson = lesson
  /-- The model is that of the lesson. -/
  model_eq : page.model = model
  /-- What was typed since then stands in the editor, which started with the text of the lesson. -/
  selection_eq : page.selection =
    since.foldl (fun text g => g.event.retyped lesson text) (startingText lesson)
  /-- The solution, hidden at first, was shown or hidden each time it was toggled since then. -/
  solution_eq : page.showsSolution = decide (since.countP (·.event.togglesSolution) % 2 = 1)

/-- A stage at which no load is applied adds what is typed and toggled there. -/
theorem Replays.append {g : Stage} {lesson : Option Lesson} {model : Option Model}
    {since : List Stage} (replays : Replays g.before.lesson lesson model since)
    (unapplied : ∀ number, ¬ g.Ends .load number .applied) :
    Replays g.after.lesson lesson model (since ++ [g]) := by
  -- Typing goes on from what stood there, and toggling from what was shown.
  cases g.content with
  | loads _ _ _ ends => exact absurd ends (unapplied _)
  | keeps sameLesson sameModel selection solution =>
    refine ⟨by rw [sameLesson, replays.lesson_eq], by rw [sameModel, replays.model_eq], ?_, ?_⟩
    · rw [selection, replays.lesson_eq, replays.selection_eq, List.foldl_append]
      rfl
    · rw [solution, replays.solution_eq, List.countP_append, List.countP_singleton]
      cases g.event.togglesSolution with
      | false => simp
      | true =>
        -- One more toggle turns an even number odd and an odd one even.
        rcases Nat.mod_two_eq_zero_or_one (since.countP (·.event.togglesSolution)) with even | odd
        · simp [even, Nat.add_mod]
        · simp [odd, Nat.add_mod]

/-- A stage ends a load that was applied: it was given the lesson that it asked for, and then the
model that this lesson names, if it names one. -/
def Delivers (past : List Stage) (last : Stage) (lesson : Lesson) (model : Option Model) : Prop :=
  ∃ number id, last.Ends .load number .applied ∧ (∃ g ∈ past, g.Loads number id) ∧
    (∃ g ∈ past ++ [last], g.Gives number (.lesson id) lesson) ∧
    match lesson.model with
    -- A lesson without a model is shown without one.
    | none => model = none
    -- Any other is shown with the model that was compiled for it in this very load.
    | some source => ∃ compiled, model = some compiled ∧
        last.Gives number (.compile (.example source)) compiled

/-- What a load completes with was given to that load. -/
theorem delivers_of_obtains {past : List Stage} {last : Stage} {number : Nat} {answers : Answers}
    {on : LessonPage.Waiting} {ticket : Ticket} {lesson : Lesson} {model : Option Model}
    (arrived : last.event = .arrival number answers)
    (waits : last.before.waiting? number = some (.lesson on))
    (explains : Explains past number on)
    (obtained : LessonPage.Obtains answers on ticket lesson model)
    (ends : last.Ends .load number .applied) : Delivers past last lesson model := by
  -- A lesson without a model came with this answer, and any other with an earlier one.
  cases obtained with
  | @bare _ id _ answered unnamed =>
    refine ⟨number, id, ends, explains, ⟨last, by simp, _, _, arrived, waits, rfl, answered⟩, ?_⟩
    rw [unnamed]
  | @modelled _ id _ source model answered =>
    obtain ⟨loads, ⟨middle, member, gives⟩, named⟩ := explains
    refine ⟨number, id, ends, loads, ⟨middle, List.mem_append_left _ member, gives⟩, ?_⟩
    rw [named]
    exact ⟨model, rfl, _, _, arrived, waits, rfl, answered⟩

/-- The page of a lesson shows nothing but what was typed until a load is applied, and then the
lesson of the last such load, with what was typed since. -/
theorem replays_last_load (run : List Moment) :
    ((∀ g ∈ ({} : Session).stages run, ∀ number, ¬ g.Ends .load number .applied) ∧
      Replays (({} : Session).after run).lesson none none (({} : Session).stages run)) ∨
    ∃ earlier last later lesson model, ({} : Session).stages run = earlier ++ last :: later ∧
      Delivers earlier last lesson model ∧
      (∀ g ∈ later, ∀ number, ¬ g.Ends .load number .applied) ∧
      Replays (({} : Session).after run).lesson (some lesson) model later := by
  -- By the last stage: it applies a load, or adds to what was typed since the one before.
  induction run using List.reverseRecOn with
  | nil => exact .inl ⟨by simp, rfl, rfl, rfl, rfl⟩
  | append_singleton run m ih =>
    rw [stages_append, after_append]
    simp only [stages_cons, stages_nil, after_cons, after_nil]
    cases (({} : Session).after run |>.stage m).content with
    | loads arrived waits obtained ends shows =>
      -- Nothing was typed yet beside the new lesson.
      have delivers :=
        delivers_of_obtains arrived waits (explains_of_waits rfl waits) obtained ends
      refine .inr ⟨_, _, [], _, _, rfl, delivers, by simp, ?_⟩
      rw [shows]
      exact ⟨rfl, rfl, rfl, rfl⟩
    | keeps _ _ _ _ unapplied =>
      rcases ih with ⟨none, replays⟩ | ⟨earlier, last, later, lesson, model, split, delivers, final,
        replays⟩
      · refine .inl ⟨fun g member => ?_, replays.append unapplied⟩
        rcases List.mem_append.1 member with before | here
        · exact none g before
        · rw [List.mem_singleton.1 here]
          exact unapplied
      · refine .inr ⟨earlier, last, later ++ [_], lesson, model, ?_, delivers, fun g member => ?_,
          replays.append unapplied⟩
        · rw [split, List.append_assoc]
          rfl
        · rcases List.mem_append.1 member with before | here
          · exact final g before
          · rw [List.mem_singleton.1 here]
            exact unapplied

/-- Nothing has changed that a lesson page shows beside its status, nor that is shared beside the
lessons. -/
structure Stage.KeepsLesson (g : Stage) : Prop where
  /-- The lesson page is what it was but for its status and its tickets. -/
  page : g.after.lesson =
    { g.before.lesson with status := g.after.lesson.status, tickets := g.after.lesson.tickets }
  /-- What is shared is what it was, but for the lessons. -/
  shared : g.before.shared.SameButLessons g.after.shared

/-- A load shows nothing when it starts. -/
theorem Stage.Starts.keepsLesson {g : Stage} {number : Nat} (starts : g.Starts .load number) :
    g.KeepsLesson := by
  -- The first step of a load takes a ticket and sets the status of the page.
  obtain ⟨call, on, ticket, called, taken, holds⟩ := id starts
  cases g.course with
  | lists fetches => exact absurd starts fetches.not_starts
  | lessonBegins called' begins takes =>
    obtain ⟨-, next, waits, rfl⟩ := takes.waiting taken
    cases begins with
    | loads => exact ⟨by rw [takes.lesson], by rw [takes.shared]; rfl⟩
    | asked | runs =>
      cases waits
      cases holds
    | routed | skipped | toggled | unbound => cases waits
  | playgroundBegins _ _ takes =>
    obtain ⟨-, next, -, rfl⟩ := takes.waiting taken
    cases Playground.Waiting.held?_page holds
  | edits other | lessonGoesOn other | playgroundGoesOn other => simp [called] at other

/-- A load shows nothing later either, unless it is applied. -/
theorem Stage.keepsLesson_of_held {g : Stage} {number : Nat} {ticket : Ticket}
    (holds : g.before.held? number = some (.load, ticket)) (about : g.IsAbout number)
    (unapplied : ¬ g.Ends .load number .applied) : g.KeepsLesson := by
  -- Of the steps that a load takes with its ticket only the applied one shows anything.
  obtain ⟨on, waits, held⟩ := held?_eq_some_iff.1 holds
  obtain ⟨answers, _, arrived, -⟩ := about.arrival (lt_length_of_waiting waits)
  cases on with
  | lessons | catalog on => cases held
  | playground on => cases Playground.Waiting.held?_page held
  | lesson on =>
    obtain ⟨step, goesOn, ⟨lesson, shared, -, taken⟩⟩ := Stage.goesOn_of_lesson arrived waits
    cases goesOn with
    | found | lost | selected | refused => cases held
    | applied =>
      exact absurd ⟨answers, _, ticket, _, arrived, waits, held, taken, rfl⟩ unapplied
    | fetched | seeks => exact ⟨by rw [lesson], by rw [shared]; rfl⟩
    | failed _ _ lists | late _ _ lists =>
      exact ⟨by rw [lesson], by rw [shared]; exact lists.sameButLessons⟩

/-- No step of a load that fails or comes too late shows anything. -/
theorem keepsLesson_of_unapplied_load {s : Session} (idle : s.calls = []) {run : List Moment}
    {past later : List Stage} {last : Stage} {number : Nat} {outcome : Outcome}
    (split : s.stages run = past ++ last :: later) (ends : last.Ends .load number outcome)
    (unapplied : outcome ≠ .applied) {g : Stage} (member : g ∈ past ++ [last])
    (about : g.IsAbout number) : g.KeepsLesson := by
  -- A step of the load is its first one, its last one or one in between.
  obtain ⟨run, m, rest, rfl, rfl, rfl, -⟩ := stages_eq_append_cons split
  obtain ⟨ticket, holds⟩ := ends.held
  rcases List.mem_append.1 member with inside | here
  · obtain ⟨on, waits, -⟩ := held?_eq_some_iff.1 holds
    obtain ⟨earlier, first, between, split, starts⟩ := exists_starts idle holds
    obtain ⟨run, m₀, window, rfl, rfl, rfl, rfl⟩ := stages_eq_append_cons split
    rw [split] at inside
    rcases List.mem_append.1 inside with before | after
    · -- The load has not been started yet.
      exact absurd about (not_isAbout_of_mem (Nat.le_of_eq starts.held.1.symm) before)
    · rcases List.mem_cons.1 after with rfl | between
      · exact starts.keepsLesson
      · -- The load waits on, and so it does not end here.
        simp only [stage, after_append, after_cons] at waits
        obtain ⟨held, next, still⟩ := held?_of_mem starts.held.2 waits between
        refine Stage.keepsLesson_of_held held about fun ends => ?_
        rw [ends.gone] at still
        cases still
  · -- The last step ends the load with one outcome only.
    rw [List.mem_singleton.1 here] at about ⊢
    refine Stage.keepsLesson_of_held holds about fun applied => unapplied ?_
    obtain ⟨answers, on, _, _, arrived, waits, -⟩ := id applied
    obtain ⟨-, result, finished, came⟩ := ends.of_arrival arrived waits
    obtain ⟨-, result', finished', came'⟩ := applied.of_arrival arrived waits
    rw [finished] at finished'
    cases finished'
    rw [came] at came'
    exact Option.some.inj came'

/-- A lesson page that is used alone shows what a page would show that is told of nothing but the
loads that were applied, and of what was typed and toggled; and no load that fails or comes too late
shows anything at any of its steps. -/
theorem shows_last_applied_load {run : List Moment} (alone : UsesOnly .lesson run) :
    (({} : Session).after run).shared.model = (({} : Session).after run).lesson.model ∧
    (((∀ g ∈ ({} : Session).stages run, ∀ number, ¬ g.Ends .load number .applied) ∧
        Replays (({} : Session).after run).lesson none none (({} : Session).stages run)) ∨
      ∃ earlier last later lesson model, ({} : Session).stages run = earlier ++ last :: later ∧
        Delivers earlier last lesson model ∧
        (∀ g ∈ later, ∀ number, ¬ g.Ends .load number .applied) ∧
        Replays (({} : Session).after run).lesson (some lesson) model later) ∧
    ∀ past last later number outcome, ({} : Session).stages run = past ++ last :: later →
      last.Ends .load number outcome → outcome ≠ .applied →
        ∀ g ∈ past ++ [last], g.IsAbout number → g.KeepsLesson := by
  -- The model goes with what is shared on a page alone; the replay and the stages of other loads
  -- have lemmas of their own.
  refine ⟨(model?_eq_shared rfl rfl alone).symm, replays_last_load run, ?_⟩
  intro past last later number outcome split ends unapplied g member about
  exact keepsLesson_of_unapplied_load rfl split ends unapplied member about

/-- The lesson about the box is loaded, another selector is typed, and the solution is shown. -/
def typedRun : List Moment := [
  ⟨⟨0⟩, .call (.lesson (.load ⟨"extrude"⟩))⟩, ⟨⟨1⟩, .arrival 0 boxAnswers⟩,
  ⟨⟨2⟩, .arrival 0 boxAnswers⟩, ⟨⟨3⟩, .edit (.setSelection "edges")⟩,
  ⟨⟨4⟩, .edit .toggleSolution⟩]

/-- The page shows the lesson about the box, with what was typed and toggled since. -/
theorem shows_box_lesson :
    UsesOnly .lesson typedRun ∧
    (({} : Session).after typedRun).shared.model = (({} : Session).after typedRun).lesson.model ∧
    ∃ earlier last later lesson model, ({} : Session).stages typedRun = earlier ++ last :: later ∧
      Delivers earlier last lesson model ∧
      (∀ g ∈ later, ∀ number, ¬ g.Ends .load number .applied) ∧
      Replays (({} : Session).after typedRun).lesson (some lesson) model later := by
  -- The theorem is applied, and its first case is not this one.
  have alone : UsesOnly .lesson typedRun := by
    simp [UsesOnly, typedRun, Event.meddles, Event.page?]
  obtain ⟨same, shown, -⟩ := shows_last_applied_load alone
  refine ⟨alone, same, ?_⟩
  rcases shown with ⟨none, -⟩ | shown
  · -- The load is applied when the model arrives.
    have member : (({} : Session).after (typedRun.take 2)).stage ⟨⟨2⟩, .arrival 0 boxAnswers⟩ ∈
        ({} : Session).stages typedRun := List.mem_of_getElem? (i := 2) rfl
    exact absurd ⟨boxAnswers, _, _, _, rfl, rfl, rfl, rfl, rfl⟩ (none _ member 0)
  · exact shown

end Session

end SelectorTutorial
