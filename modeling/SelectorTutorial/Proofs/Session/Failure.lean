import SelectorTutorial.Proofs.Session.Guard

/-! What the user is told when a call fails: the same on the page as by the call, and of a load the
error of the one request that was denied. -/

namespace SelectorTutorial

/-- What the user is told of a reply that is no answer.  Of a load it is never said what the backend
said. -/
def Reply.told (context : BackendError.Context) : Reply → String
  | .lost => BackendError.unreachableMessage
  | .response status body =>
    if context = .loadLesson ∨ isSuccess status = true then context.fallback
    else (Api.detail? body).getD context.fallback

/-- The user is told what is to be told of what came back. -/
structure Answers.Warrants (answers : Answers) (context : BackendError.Context) (message : String) :
    Prop where
  /-- What came back is a reply. -/
  of_reply : ∀ api reply, answers = Api.answers api reply → message = reply.told context
  /-- No request could be sent. -/
  of_unsent : ∀ error : BackendError, error.IsUnsent → answers = .failure error →
    message = if error.isUnreachable then BackendError.unreachableMessage else context.fallback

/-- What is shown of a reply is what is to be told of it. -/
theorem Api.FailsTo.shownIn_eq {api : Api} {call : BackendCall} {reply : Reply}
    {error : BackendError} (fails : api.FailsTo call reply error) (context : BackendError.Context) :
    error.shownIn context = reply.told context := by
  -- By what became of the reply: lost, not understood, or a refusal, whose detail is what the
  -- backend said.
  cases fails with
  | lost => simp [BackendError.shownIn, BackendError.isUnreachable, BackendError.userMessage,
      BackendError.detail, Reply.told]
  | undecodable success =>
    simp [BackendError.shownIn, BackendError.isUnreachable, BackendError.userMessage,
      BackendError.detail, Reply.told, success]
  | refused failure refused =>
    have reached : error.isUnreachable = false := by cases refused <;> rfl
    have said := refused.detail_eq
    by_cases load : context = .loadLesson
    · simp [BackendError.shownIn, load, reached, Reply.told]
    · simp only [BackendError.shownIn, load, reached, BackendError.userMessage, said, Reply.told,
        failure]
      cases Api.detail? _ <;> simp

/-- What is shown of an error is what is to be told of what came back. -/
theorem Answers.warrants_of_error {answers : Answers} {call : BackendCall} {error : BackendError}
    (answered : answers call = .error error) (context : BackendError.Context) :
    answers.Warrants context (error.shownIn context) where
  -- The error is the one that the reply was read as.
  of_reply api reply replied := by
    rw [replied] at answered
    exact (Api.failsTo_of_read answered).shownIn_eq context
  of_unsent cause unsent replied := by
    rw [replied] at answered
    cases answered
    cases unsent with
    | unreachable => simp [BackendError.shownIn, BackendError.isUnreachable,
        BackendError.userMessage, BackendError.detail]
    | invalidUrl => simp [BackendError.shownIn, BackendError.isUnreachable,
        BackendError.userMessage, BackendError.detail]

/-- Of a load nothing is told but that the backend is unreachable, or that it failed. -/
theorem BackendError.shownIn_loadLesson (error : BackendError) :
    error.shownIn .loadLesson = unreachableMessage ∨
      error.shownIn .loadLesson = Context.loadLesson.fallback := by
  -- A load shows the one fixed text for everything but a backend that is unreachable.
  cases error with
  | unreachable => exact .inl rfl
  | compileRejected | selectionRejected | notFound | unexpectedStatus | undecodable | invalidUrl =>
    exact .inr rfl

namespace LessonPage

/-- A load is denied its lesson, or the model of that. -/
inductive Denied (answers : Answers) : Waiting → Ticket → Lesson.Id → BackendError → Prop
  | lesson {ticket id cause} (answered : answers (.lesson id) = .error cause) :
      Denied answers (.lesson ticket id) ticket id cause
  | model {ticket id lesson source cause}
      (answered : answers (.compile (.example source)) = .error cause) :
      Denied answers (.model ticket id lesson source) ticket id cause

/-- What is denied anything is a load. -/
theorem Denied.holds {answers : Answers} {on : Waiting} {ticket : Ticket} {id : Lesson.Id}
    {cause : BackendError} (denied : Denied answers on ticket id cause) :
    on.held? = some (.load, ticket) := by
  -- Either of them is asked for with the ticket of the load.
  cases denied <;> rfl

/-- A load is denied something for one error. -/
theorem Denied.cause_eq {answers : Answers} {on : Waiting} {ticket ticket' : Ticket}
    {id id' : Lesson.Id} {cause cause' : BackendError} (denied : Denied answers on ticket id cause)
    (denied' : Denied answers on ticket' id' cause') : cause = cause' := by
  -- The same request was answered with both.
  cases denied with
  | lesson answered | model answered =>
    cases denied' with
    | _ answered' => exact Except.error.inj (answered.symm.trans answered')

/-- The error is what the request for the lesson or the model was answered with. -/
theorem Denied.answered {answers : Answers} {on : Waiting} {ticket : Ticket} {id : Lesson.Id}
    {cause : BackendError} (denied : Denied answers on ticket id cause) :
    answers on.call = .error cause := by
  -- Either of them waits for just that request.
  cases denied with
  | lesson answered | model answered => exact answered

/-- All that an answer can do to a load. -/
inductive LoadGoesOn (answers : Answers) : Waiting → Progress Waiting Result → Prop
  /-- The model of the lesson is asked for. -/
  | fetched {ticket id lesson source} (answered : answers (.lesson id) = .ok lesson) :
      LoadGoesOn answers (.lesson ticket id) (.waiting (.model ticket id lesson source))
  /-- It is denied something, and the lessons are asked for before it is given up. -/
  | seeks {on ticket id cause} (denied : Denied answers on ticket id cause) :
      LoadGoesOn answers on (.waiting (.redirect ticket id cause))
  /-- It is denied something and given up at once. -/
  | denied {on ticket id cause redirect} (denied : Denied answers on ticket id cause) :
      LoadGoesOn answers on
        (.finished (.loaded (.failed (cause.shownIn .loadLesson)) redirect))
  /-- It was denied something before, and is given up now. -/
  | sought {ticket id cause redirect} :
      LoadGoesOn answers (.redirect ticket id cause)
        (.finished (.loaded (.failed (cause.shownIn .loadLesson)) redirect))
  /-- The lesson is shown, or comes too late. -/
  | ends {on outcome redirect} (unfailed : ∀ message, outcome ≠ .failed message) :
      LoadGoesOn answers on (.finished (.loaded outcome redirect))

section

variable {now : Timestamp} {answers : Answers} {page : LessonPage} {shared : Snapshot}
  {on : Waiting} {ticket : Ticket} {id : Lesson.Id} {cause : BackendError}

/-- A load that is given up ends, with the message for its cause unless it is late. -/
theorem loadGoesOn_failLoad {redirect : Option Route}
    (failed : LoadGoesOn answers on
      (.finished (.loaded (.failed (cause.shownIn .loadLesson)) redirect))) :
    LoadGoesOn answers on (failLoad page shared ticket cause redirect).progress := by
  -- A late load is not told as failed.
  unfold failLoad
  split
  · exact failed
  · exact .ends nofun

/-- A load that is denied something is given up, at once or later. -/
theorem loadGoesOn_seekRedirect (denied : Denied answers on ticket id cause) :
    LoadGoesOn answers on (seekRedirect page shared ticket id cause).progress := by
  -- Only a lesson that was not found is sought elsewhere, and only where the lessons have to be
  -- fetched for that it is not given up at once.
  unfold seekRedirect
  split
  · exact loadGoesOn_failLoad (.denied denied)
  · split
    · exact .seeks denied
    · exact loadGoesOn_failLoad (.denied denied)

/-- A load that has all that it needs ends, and does not fail. -/
theorem loadGoesOn_finishLoad {lesson : Lesson} {model : Option Model} :
    LoadGoesOn answers on (finishLoad now page shared ticket lesson model).progress := by
  -- It is applied, or late.
  unfold finishLoad
  split <;> exact .ends nofun

/-- An answer to a load does one of these things. -/
theorem loadGoesOn_resume (holds : on.held? = some (.load, ticket)) :
    LoadGoesOn answers on (page.resume now answers shared on).progress := by
  -- By what the load waits for: the lesson, its model, or the lessons to redirect to.
  cases on with
  | route | selection => cases holds
  | lesson ticket id =>
    simp only [resume]
    split
    · next answered => exact loadGoesOn_seekRedirect (.lesson answered)
    · next answered =>
      split
      · exact .fetched answered
      · exact loadGoesOn_finishLoad
  | model ticket id lesson source =>
    simp only [resume]
    split
    · next answered => exact loadGoesOn_seekRedirect (.model answered)
    · exact loadGoesOn_finishLoad
  | redirect ticket id cause =>
    simp only [resume]
    split <;> exact loadGoesOn_failLoad .sought

end

end LessonPage

namespace Session

namespace Stage

/-- At a stage the call with some number is denied the lesson that it loads, or the model of
that. -/
def Denies (g : Stage) (number : Nat) (answers : Answers) (cause : BackendError) : Prop :=
  ∃ on ticket id, g.event = .arrival number answers ∧
    g.before.waiting? number = some (.lesson on) ∧ LessonPage.Denied answers on ticket id cause

/-- An answer to a load takes it on as a load. -/
theorem loadGoesOn_of_arrival {g : Stage} {number : Nat} {answers : Answers}
    {on : LessonPage.Waiting} {ticket : Ticket} (arrived : g.event = .arrival number answers)
    (waits : g.before.waiting? number = some (.lesson on))
    (holds : on.held? = some (.load, ticket)) :
    ∃ progress, LessonPage.LoadGoesOn answers on progress ∧
      g.call? = some (number, progress.map .lesson .lesson) :=
  -- The answer resumes the page with what the call waited for.
  ⟨_, LessonPage.loadGoesOn_resume holds, (of_arrival arrived waits).2⟩

/-- A load that asks for the lessons before it is given up was denied something just then. -/
theorem denies_of_seeks {g : Stage} {number : Nat} {answers : Answers} {ticket : Ticket}
    {id : Lesson.Id} {cause : BackendError} (arrived : g.event = .arrival number answers)
    (taken : g.call? = some (number, .waiting (.lesson (.redirect ticket id cause)))) :
    g.Denies number answers cause := by
  -- Nothing but a load of the lesson page goes on like that.
  cases g.course with
  | lists fetches => cases (fetches.ticketless _ _ taken).1 _ rfl
  | edits other | lessonBegins other | playgroundBegins other => simp [arrived] at other
  | playgroundGoesOn _ _ _ takes =>
    obtain ⟨-, next, -, same⟩ := takes.waiting taken
    cases same
  | lessonGoesOn arrived' waits' goesOn takes =>
    cases arrived.symm.trans arrived'
    obtain ⟨-, next, goes, same⟩ := takes.waiting taken
    cases same
    cases goesOn with
    | seeks holds =>
      obtain ⟨progress, goesOn, taken'⟩ := loadGoesOn_of_arrival arrived waits' holds
      rw [taken, Option.some.injEq, Prod.mk.injEq] at taken'
      obtain ⟨next, rfl, same⟩ := Progress.map_eq_waiting.1 taken'.2.symm
      cases same
      cases goesOn with
      | seeks denied => exact ⟨_, _, _, arrived, waits', denied⟩
    | fetched | found | lost | applied | failed | selected | refused | late => cases goes

/-- No load asks for the lessons first of all. -/
theorem not_seeks_of_call {g : Stage} {number : Nat} {call : Call} {ticket : Ticket}
    {id : Lesson.Id} {cause : BackendError} (called : g.event = .call call) :
    g.call? ≠ some (number, .waiting (.lesson (.redirect ticket id cause))) := by
  -- A load waits for its lesson at first.
  intro taken
  rw [(of_call called).2, Option.some.injEq, Prod.mk.injEq] at taken
  cases awaits_of_begin taken.2 with
  | load => cases taken.2

end Stage

/-- What was denied to the call with some number in the past is what it waits for to be given up,
and nothing else is. -/
structure Recalls (s : Session) (past : List Stage) (number : Nat) : Prop where
  /-- A load that was denied something is given up with the next answer. -/
  denied : ∀ d ∈ past, ∀ answers cause, d.Denies number answers cause →
    number < s.calls.length ∧
      ∀ on, s.waiting? number = some on → ∃ ticket id, on = .lesson (.redirect ticket id cause)
  /-- A load that is given up with the next answer was denied something. -/
  sought : ∀ ticket id cause, s.waiting? number = some (.lesson (.redirect ticket id cause)) →
    ∃ d ∈ past, ∃ answers, d.Denies number answers cause

/-- A stage at which a load is denied something is recalled after it, and those before it still
are. -/
theorem Recalls.after {g : Stage} {past : List Stage} {number : Nat}
    (recalls : g.before.Recalls past number) : g.after.Recalls (past ++ [g]) number where
  -- What was denied before this stage is kept, and what is denied at it is added.
  denied d member answers cause denies := by
    rw [List.mem_append, List.mem_singleton] at member
    obtain member | rfl := member
    · obtain ⟨made, still⟩ := recalls.denied d member answers cause denies
      refine ⟨Nat.lt_of_lt_of_le made g.calls_length_le, fun on waits => ?_⟩
      rcases Stage.waits_after waits with
        ⟨waits, -⟩ | ⟨_, -, rfl, -⟩ | ⟨_, old, arrived, waits, taken⟩
      · exact still on waits
      · exact absurd made (Nat.lt_irrefl _)
      · -- The next answer ends the load.
        obtain ⟨ticket, id, rfl⟩ := still old waits
        obtain ⟨progress, goesOn, taken'⟩ := Stage.loadGoesOn_of_arrival arrived waits rfl
        rw [taken, Option.some.injEq, Prod.mk.injEq] at taken'
        obtain ⟨next, rfl, rfl⟩ := Progress.map_eq_waiting.1 taken'.2.symm
        cases goesOn with
        | seeks denied => cases denied
    · obtain ⟨on, ticket, id, arrived, waits, denied⟩ := denies
      obtain ⟨progress, goesOn, taken⟩ := Stage.loadGoesOn_of_arrival arrived waits denied.holds
      refine ⟨Stage.IsAbout.lt_length ⟨_, taken⟩, fun next waits' => ?_⟩
      rw [Stage.waiting?_after_of_call? taken] at waits'
      cases goesOn with
      | fetched answered =>
        cases denied with
        | lesson answered' => cases answered.symm.trans answered'
      | seeks denied' =>
        cases waits'
        rw [denied.cause_eq denied']
        exact ⟨_, _, rfl⟩
      | denied | sought | ends => cases waits'
  sought ticket id cause waits := by
    rcases Stage.waits_after waits with
      ⟨waits, -⟩ | ⟨call, called, -, taken⟩ | ⟨answers, _, arrived, -, taken⟩
    · obtain ⟨d, member, denies⟩ := recalls.sought ticket id cause waits
      exact ⟨d, List.mem_append_left _ member, denies⟩
    · exact absurd taken (Stage.not_seeks_of_call called)
    · exact ⟨g, by simp, answers, Stage.denies_of_seeks arrived taken⟩

/-- All that was denied in a run is recalled at its end. -/
theorem recalls_after {s : Session} (idle : s.calls = []) (run : List Moment) (number : Nat) :
    (s.after run).Recalls (s.stages run) number := by
  -- The last stage adds what is denied there.
  induction run using List.reverseRecOn with
  | nil => exact ⟨by simp, fun ticket id cause waits => by simp [waiting?, idle] at waits⟩
  | append_singleton run m ih =>
    rw [after_append, stages_append]
    exact ih.after

namespace Stage

variable {g : Stage} {number : Nat} {message : String} {errand : Errand}

/-- An errand that failed shows on its panel what its call tells. -/
theorem Ends.panel_of_failed (ends : g.Ends errand number (.failed message)) :
    g.after.panel errand = { error := some message } := by
  -- A stage tells of one errand in one way, and of these only a failure ends it so.
  cases g.tells errand with
  | starts starts =>
    obtain ⟨call, _, _, called, -⟩ := starts
    exact absurd ends (not_ends_of_call called)
  | applied applied => cases applied.outcome_eq ends
  | failed failed panel =>
    cases failed.outcome_eq ends
    exact panel
  | wiped _ _ unended | complains _ unended => exact absurd ends (unended _ _)
  | keeps _ unended => cases unended _ _ ends

/-- A call that fails at once complains of what was put in, and its panel shows that. -/
theorem Fails.complained (fails : g.Fails number message) {call : Call}
    (called : g.event = .call call) (made : call.errand? = some errand) :
    errand ≠ .load ∧ g.complaint? errand = some message ∧
      g.after.panel errand = { error := some message } := by
  -- A call that starts fails later if at all, so this one was turned down.
  have about : number = g.before.calls.length := by
    obtain ⟨result, taken, -⟩ := id fails
    exact (Prod.mk.inj (Option.some.inj (taken.symm.trans (of_call called).2))).1
  subst about
  by_cases load : errand = .load
  · -- Nothing keeps a load from starting.
    subst load
    obtain ⟨id, rfl⟩ := Call.exists_load made
    obtain ⟨_, _, _, -, taken, -⟩ := starts_load_of_call called
    exact absurd fails (not_comesTo_of_waiting taken _)
  · refine ⟨load, ?_⟩
    cases outset called made load with
    | skips taken came => cases came.symm.trans (ComesTo.outcome_eq fails taken)
    | asks taken => exact absurd fails (not_comesTo_of_waiting taken _)
    | refuses taken came complained after =>
      cases came.symm.trans (ComesTo.outcome_eq fails taken)
      refine ⟨complained, ?_⟩
      rw [after]
      cases errand <;> rfl

/-- A load that fails is denied something now, or was denied it before. -/
theorem Ends.denied_of_load (ends : g.Ends .load number (.failed message)) :
    (∃ answers cause, g.Denies number answers cause ∧ message = cause.shownIn .loadLesson) ∨
      ∃ ticket id cause, g.before.waiting? number = some (.lesson (.redirect ticket id cause)) ∧
        message = cause.shownIn .loadLesson := by
  -- The answer took the load on, and of the ways to go on these two end in a failure.
  obtain ⟨answers, on, ticket, result, arrived, waits, holds, taken, came⟩ := ends
  cases on with
  | lessons | catalog => cases holds
  | playground on => cases Playground.Waiting.held?_page holds
  | lesson on =>
    obtain ⟨progress, goesOn, taken'⟩ := loadGoesOn_of_arrival arrived waits holds
    rw [taken, Option.some.injEq, Prod.mk.injEq] at taken'
    obtain ⟨mine, rfl, rfl⟩ := Progress.map_eq_finished.1 taken'.2.symm
    cases goesOn with
    | denied denied =>
      cases came
      exact .inl ⟨answers, _, ⟨_, _, _, arrived, waits, denied⟩, rfl⟩
    | sought =>
      cases came
      exact .inr ⟨_, _, _, waits, rfl⟩
    | ends unfailed =>
      cases came
      exact absurd rfl (unfailed message)

end Stage

/-- A load is denied something at a stage for one error. -/
theorem Stage.Denies.cause_eq {g : Stage} {number : Nat} {answers answers' : Answers}
    {cause cause' : BackendError} (denies : g.Denies number answers cause)
    (denies' : g.Denies number answers' cause') : cause = cause' := by
  -- There is one answer and one thing that the load waits for.
  obtain ⟨_, _, _, arrived, waits, denied⟩ := denies
  obtain ⟨_, _, _, arrived', waits', denied'⟩ := denies'
  cases arrived.symm.trans arrived'
  cases waits.symm.trans waits'
  exact denied.cause_eq denied'

namespace Recalls

variable {g d : Stage} {past : List Stage} {number : Nat} {ticket : Ticket} {id : Lesson.Id}
  {answers answers' : Answers} {cause cause' : BackendError} {message : String}

/-- What is denied now is all that is denied to the load. -/
theorem cause_eq_of_denies (recalls : g.before.Recalls past number)
    (denies : g.Denies number answers cause) (member : d ∈ past ++ [g])
    (denies' : d.Denies number answers' cause') : cause' = cause := by
  rw [List.mem_append, List.mem_singleton] at member
  obtain member | rfl := member
  · -- After an earlier denial the load would wait to be given up, and be denied nothing more.
    obtain ⟨_, _, _, -, waits, denied⟩ := denies
    obtain ⟨-, still⟩ := recalls.denied d member answers' cause' denies'
    obtain ⟨_, _, same⟩ := still _ waits
    cases same
    cases denied
  · exact denies'.cause_eq denies

/-- What the load waits with to be given up is all that is denied to it. -/
theorem cause_eq_of_waits (recalls : g.before.Recalls past number)
    (waits : g.before.waiting? number = some (.lesson (.redirect ticket id cause)))
    (member : d ∈ past ++ [g]) (denies : d.Denies number answers' cause') : cause' = cause := by
  -- What was denied before is what is waited with; this very stage denies nothing, since it answers
  -- for the lessons.
  rw [List.mem_append, List.mem_singleton] at member
  obtain member | rfl := member
  · obtain ⟨-, still⟩ := recalls.denied d member answers' cause' denies
    obtain ⟨_, _, same⟩ := still _ waits
    cases same
    rfl
  · obtain ⟨_, _, _, -, waits', denied⟩ := denies
    cases waits.symm.trans waits'
    cases denied

/-- A load that fails was denied something, and fails for just that. -/
theorem of_ends (recalls : g.before.Recalls past number)
    (ends : g.Ends .load number (.failed message)) :
    (∃ d ∈ past ++ [g], ∃ answers cause, d.Denies number answers cause) ∧
      ∀ d ∈ past ++ [g], ∀ answers cause, d.Denies number answers cause →
        message = cause.shownIn .loadLesson := by
  -- The denial is at this stage, or is the one that the load was waiting with.
  rcases ends.denied_of_load with
    ⟨answers, cause, denies, told⟩ | ⟨ticket, id, cause, waits, told⟩
  · refine ⟨⟨g, by simp, answers, cause, denies⟩, fun d member _ _ denies' => ?_⟩
    rw [told, recalls.cause_eq_of_denies denies member denies']
  · obtain ⟨d, member, answers, denies⟩ := recalls.sought ticket id cause waits
    refine ⟨⟨d, by simp [member], answers, cause, denies⟩, fun d member _ _ denies' => ?_⟩
    rw [told, recalls.cause_eq_of_waits waits member denies']

end Recalls

/-- Whatever calls and answers overlap, a call to load a lesson, to compile or to run a selector
that fails shows the message that it ends with on its panel, which does not wait any more.  A
compilation and a run fail at once for what was put in, or else with what is to be told of the
answer: the detail of the body of a refusal, or that the backend is unreachable if there was no
response, or the fallback of the panel.  A load fails with what is to be told of the one answer by
which it was denied its lesson or the model of that, then or before: that the backend is unreachable
if there was no response, or the fallback, and nothing else is ever told of it. -/
theorem one_message_per_failure (shared : Snapshot) {run : List Moment} {past later : List Stage}
    {g : Stage} {number : Nat} {call : Call} {errand : Errand} {message : String}
    (split : ({ shared } : Session).stages run = past ++ g :: later)
    (made : (madeIn run)[number]? = some call) (kind : call.errand? = some errand)
    (fails : g.Fails number message) :
    g.after.panel errand = { isLoading := false, error := some message } ∧
    (errand ≠ .load → (g.event = .call call ∧ g.complaint? errand = some message) ∨
      ∃ answers, g.event = .arrival number answers ∧ answers.Warrants errand.context message) ∧
    (errand = .load →
      (message = BackendError.unreachableMessage ∨
        message = BackendError.Context.loadLesson.fallback) ∧
      (∃ d ∈ past ++ [g], ∃ answers cause, d.Denies number answers cause) ∧
      ∀ d ∈ past ++ [g], ∀ answers cause, d.Denies number answers cause →
        answers.Warrants errand.context message) := by
  -- A call fails for what was put in or for an answer, and a load only for an answer.
  have member : g ∈ ({ shared } : Session).stages run := by simp [split]
  obtain ⟨first, m, rest, rfl, rfl, rfl, -⟩ := stages_eq_append_cons split
  obtain ⟨result, taken, -⟩ := id fails
  -- The call fails as it is made, or as an answer to it arrives.
  rcases made_of_mem rfl member ⟨_, taken⟩ made with called | ⟨answers, on, arrived, waits, awaits⟩
  · obtain ⟨unloading, complained, panel⟩ := fails.complained called kind
    exact ⟨panel, fun _ => .inl ⟨called, complained⟩, fun load => absurd load unloading⟩
  · have same := awaits.errand?_eq
    rw [kind, Option.map_eq_some_iff] at same
    obtain ⟨⟨_, ticket⟩, holds, rfl⟩ := same
    have ends := fails.ends arrived waits holds
    refine ⟨ends.panel_of_failed, fun unloading => .inr ⟨answers, arrived, ?_⟩, ?_⟩
    · obtain ⟨-, mine, cause, mineEnds, rfl, met⟩ := fails.of_arrival arrived
      obtain rfl := mineEnds.errand_eq arrived waits holds
      obtain ⟨request, answered⟩ := met.resolve_left unloading
      exact Answers.warrants_of_error answered _
    · rintro rfl
      -- A load may fail for an answer that came before the one that arrives.
      have recalls := recalls_after (s := { shared }) rfl first number
      obtain ⟨⟨d, met, given, cause, denies⟩, only⟩ := recalls.of_ends ends
      refine ⟨?_, ⟨d, met, given, cause, denies⟩, fun d met given cause denies => ?_⟩
      · rw [only d met given cause denies]
        exact cause.shownIn_loadLesson
      · obtain ⟨_, _, _, -, -, denied⟩ := id denies
        rw [only d met given cause denies]
        exact Answers.warrants_of_error denied.answered _

/-- A lesson is not found, and the lessons are asked for instead. -/
def missingRun : List Moment := [
  ⟨⟨0⟩, .call (.lesson (.load ⟨"missing"⟩))⟩,
  ⟨⟨1⟩, .arrival 0 (Api.nearby.answers (.response 404 none))⟩]

/-- When no response comes to that, the user is told of the lesson that was not found, and not of
the backend that is unreachable by then. -/
theorem missing_lesson_is_told :
    let lost : Moment := ⟨⟨2⟩, .arrival 0 (Api.nearby.answers .lost)⟩
    let past := ({} : Session).stages missingRun
    let g := (({} : Session).after missingRun).stage lost
    ({} : Session).stages (missingRun ++ [lost]) = past ++ [g] ∧
    (madeIn (missingRun ++ [lost]))[0]? = some (.lesson (.load ⟨"missing"⟩)) ∧
    (Call.lesson (.load ⟨"missing"⟩)).errand? = some .load ∧
    g.Fails 0 "Could not load lesson." ∧
    g.after.panel .load = { isLoading := false, error := some "Could not load lesson." } ∧
    (∃ d ∈ past ++ [g], ∃ answers cause, d.Denies 0 answers cause) := by
  -- The last answer ends the load, so the theorem applies at the last stage.
  intro lost past g
  have split : ({} : Session).stages (missingRun ++ [lost]) = past ++ [g] := stages_append _ _ _
  have fails : g.Fails 0 "Could not load lesson." := ⟨_, rfl, rfl⟩
  obtain ⟨panel, -, told⟩ := one_message_per_failure {} split rfl rfl fails
  exact ⟨split, rfl, rfl, fails, panel, (told rfl).2.1⟩

end Session

end SelectorTutorial
