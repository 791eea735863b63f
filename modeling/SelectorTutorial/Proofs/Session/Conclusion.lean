import SelectorTutorial.Proofs.Session.KnownLessons
import SelectorTutorial.Proofs.Session.Store
import SelectorTutorial.Proofs.Session.Undated

/-! What a call with a ticket comes to in the end, if the backend always answers the same. -/

namespace SelectorTutorial

namespace Snapshot

/-- A snapshot with the lessons fetched if there are none, as far as the backend tells them. -/
def listed (answers : Answers) (s : Snapshot) : Snapshot :=
  if s.lessons.isEmpty then
    match answers .lessons with
    | .ok lessons => s.apply .untold (.lessons lessons)
    | .error _ => s
  else s

/-- There are no lessons, or just those that the backend tells. -/
def IsFresh (answers : Answers) (s : Snapshot) : Prop :=
  s.lessons = [] ∨ ∃ lessons, answers .lessons = .ok lessons ∧ s.Teaches lessons

/-- Without word from the backend there is nothing to fetch. -/
theorem listed_of_error {answers : Answers} {error : BackendError}
    (told : answers .lessons = .error error) (s : Snapshot) : s.listed answers = s := by
  -- Nothing is stored without a list.
  simp only [listed, told, ite_self]

/-- Lessons that are there need not be fetched. -/
theorem listed_of_known (answers : Answers) {s : Snapshot} (known : s.lessons ≠ []) :
    s.listed answers = s := by
  -- The lessons are asked for only while there are none.
  simp [listed, known]

/-- Fetching the lessons twice comes to the same as fetching them once. -/
@[simp] theorem listed_listed (answers : Answers) (s : Snapshot) :
    (s.listed answers).listed answers = s.listed answers := by
  -- By what the backend tells, and by whether lessons are known.
  cases told : answers .lessons with
  | error error => simp only [listed_of_error told]
  | ok lessons =>
    by_cases known : s.lessons = []
    · -- The backend may tell that there are none, and tells so again.
      cases lessons <;> simp [listed, told, known, apply]
    · simp only [listed_of_known answers known]

/-- What the backend tells is put in the place of nothing, or of the same. -/
theorem IsFresh.apply_eq_listed {answers : Answers} {s : Snapshot} (fresh : s.IsFresh answers)
    {lessons : List Lesson} (told : answers .lessons = .ok lessons) (now : Timestamp) :
    s.apply now (.lessons lessons) = s.listed answers := by
  -- Either no lessons are known, or they are those that are told now.
  rcases fresh with none | ⟨_, told', same, order⟩
  · simp [listed, told, none, apply]
  · rw [told] at told'
    cases told'
    -- Whether or not there are any, the lessons are those that are told.
    have unchanged : s.apply now (.lessons lessons) = s := by
      rw [apply, ← same]
      rw [← same] at order
      rw [← order]
    simp [listed, told, unchanged, show s.apply .untold (.lessons lessons) = s from unchanged]

/-- Fetching the lessons and changing something else do not get in each other's way. -/
theorem listed_apply (answers : Answers) (s : Snapshot) (now : Timestamp) {change : Change}
    (other : ∀ lessons, change ≠ .lessons lessons) :
    (s.apply now change).listed answers = (s.listed answers).apply now change := by
  have same : (s.apply now change).lessons = s.lessons := (sameLessons_apply now s other).1
  -- Both changes are to different parts of the snapshot.
  simp only [listed, same]
  split
  · split
    · next lessons told =>
      refine apply_comm s now .untold fun part => ?_
      cases change with
      | lessons lessons => exact other lessons rfl
      | examples | model | mode => cases part
      | result reached => cases reached <;> cases part
    · rfl
  · rfl

end Snapshot

namespace LessonPage

/-- What a load comes to, as far as the backend decides it. -/
inductive Verdict where
  /-- The lesson is there, with its model. -/
  | shown (lesson : Lesson) (model : Option Model)
  /-- Something else went wrong than that the lesson is not there. -/
  | failed (cause : BackendError)
  /-- The lesson is not there, and another one is looked for. -/
  | missing (id : Lesson.Id) (cause : BackendError)

namespace Verdict

/-- The verdict on a lesson that cannot be fetched, or whose model cannot. -/
def ofError (id : Lesson.Id) (cause : BackendError) : Verdict :=
  if cause.isNotFound then missing id cause else failed cause

/-- The verdict on a lesson that has a model. -/
def ofModel (answers : Answers) (id : Lesson.Id) (lesson : Lesson) (source : Example.Id) :
    Verdict :=
  match answers (.compile (.example source)) with
  | .error cause => ofError id cause
  | .ok model => shown lesson (some model)

/-- The verdict on a lesson. -/
def ofLesson (answers : Answers) (id : Lesson.Id) : Verdict :=
  match answers (.lesson id) with
  | .error cause => ofError id cause
  | .ok (lesson : Lesson) =>
    match lesson.model with
    | some source => ofModel answers id lesson source
    | none => shown lesson none

/-- Whether the lessons are needed. -/
def seeks : Verdict → Bool
  | missing _ _ => true
  | _ => false

end Verdict

/-- The ticket of a load, and the verdict on it. -/
def Waiting.verdict? (answers : Answers) : Waiting → Option (Ticket × Verdict)
  | .lesson ticket id => some (ticket, .ofLesson answers id)
  | .model ticket id found source => some (ticket, .ofModel answers id found source)
  | .redirect ticket id cause => some (ticket, .missing id cause)
  | .route => none
  | .selection _ _ => none

/-- The page to go to in the place of a lesson that is not there, once the lessons are fetched. -/
def wayFrom (answers : Answers) (id : Lesson.Id) (shared : Snapshot) : Option Route :=
  match answers .lessons with
  | .ok _ => redirectFrom id (shared.listed answers)
  | .error _ => if shared.lessons.isEmpty then none else redirectFrom id shared

/-- The last step of a load, according to the verdict on it. -/
def pronounce (answers : Answers) (page : LessonPage) (shared : Snapshot) (ticket : Ticket) :
    Verdict → Step
  | .shown lesson model => finishLoad .untold page shared ticket lesson model
  | .failed cause => failLoad page shared ticket cause none
  | .missing id cause =>
    failLoad page (shared.listed answers) ticket cause (wayFrom answers id shared)

/-- The way is the same before the lessons are fetched and after. -/
@[simp] theorem wayFrom_listed (answers : Answers) (id : Lesson.Id) (shared : Snapshot) :
    wayFrom answers id (shared.listed answers) = wayFrom answers id shared := by
  -- With the lessons fetched, to fetch them once more changes nothing.
  cases told : answers .lessons with
  | ok lessons => simp only [wayFrom, told, Snapshot.listed_listed]
  | error error => rw [Snapshot.listed_of_error told]

/-- Every verdict ends the load. -/
theorem pronounce_finished (answers : Answers) (page : LessonPage) (shared : Snapshot)
    (ticket : Ticket) (verdict : Verdict) :
    ∃ result, (page.pronounce answers shared ticket verdict).progress = .finished result := by
  -- A verdict finishes the load or fails it, and both end it.
  cases verdict with
  | shown => exact finishLoad_finished ..
  | failed | missing => exact failLoad_finished ..

/-- For a ticket that is late a verdict does no more than to fetch the lessons that it needs. -/
theorem pronounce_of_late (answers : Answers) {page : LessonPage} (shared : Snapshot)
    {ticket : Ticket} (late : page.tickets.isCurrent ticket = false) (verdict : Verdict) :
    page.pronounce answers shared ticket verdict =
      ⟨page, if verdict.seeks then shared.listed answers else shared,
        .finished (.loaded .superseded none)⟩ := by
  -- By the verdicts: for a late ticket each leaves the page alone.
  cases verdict <;> simp [pronounce, finishLoad, failLoad, late, Verdict.seeks]

/-- A verdict comes to the same before the lessons are fetched and after. -/
theorem pronounce_listed (answers : Answers) (page : LessonPage) (shared : Snapshot)
    (ticket : Ticket) (verdict : Verdict) :
    page.pronounce answers (shared.listed answers) ticket verdict =
      { page.pronounce answers shared ticket verdict with
        shared := (page.pronounce answers shared ticket verdict).shared.listed answers } := by
  -- By the verdict; no verdict looks at the lessons but one that the lesson is missing.
  have failed (shared : Snapshot) (cause : BackendError) (redirect : Option Route) :
      failLoad page (shared.listed answers) ticket cause redirect =
        { failLoad page shared ticket cause redirect with
          shared := (failLoad page shared ticket cause redirect).shared.listed answers } := by
    unfold failLoad
    split <;> rfl
  cases verdict with
  | shown lesson model =>
    -- A model comes with the lesson, and the result goes.
    simp only [pronounce, finishLoad]
    split
    · rw [← Snapshot.listed_apply answers shared .untold (by simp),
        ← Snapshot.listed_apply answers _ .untold (by simp)]
    · rfl
  | failed cause => exact failed ..
  | missing id cause => simp only [pronounce, wayFrom_listed, ← failed]

/-- No verdict on a load makes another load late. -/
theorem pronounce_reached (answers : Answers) (page : LessonPage) (shared : Snapshot)
    (ticket : Ticket) (verdict : Verdict) :
    (page.pronounce answers shared ticket verdict).page.tickets.reached .lesson =
      page.tickets.reached .lesson := by
  -- By the verdict; only a lesson that is shown touches a ticket.
  have failed (shared : Snapshot) (cause : BackendError) (redirect : Option Route) :
      (failLoad page shared ticket cause redirect).page.tickets = page.tickets := by
    unfold failLoad
    split <;> rfl
  cases verdict with
  | shown lesson model =>
    -- What a new lesson makes late is the runs of the selector.
    simp only [pronounce, finishLoad]
    split <;> rfl
  | failed | missing => simp only [pronounce, failed]

/-- When a load meets an error, either the verdict is pronounced or the lessons are asked for. -/
theorem seekRedirect_judged (answers : Answers) (page : LessonPage) (shared : Snapshot)
    (ticket : Ticket) (id : Lesson.Id) (cause : BackendError) :
    seekRedirect page shared ticket id cause =
        page.pronounce answers shared ticket (.ofError id cause) ∨
      seekRedirect page shared ticket id cause =
          ⟨page, shared, .waiting (.redirect ticket id cause)⟩ ∧
        cause.isNotFound = true := by
  -- Only a lesson that is missing, while no lessons are known, takes another call.
  unfold seekRedirect Verdict.ofError
  by_cases missing : cause.isNotFound = true
  · by_cases unknown : shared.lessons = []
    · exact .inr ⟨by simp [missing, unknown], missing⟩
    · -- The lessons are there, and the way is found among them.
      left
      have way : wayFrom answers id shared = redirectFrom id shared := by
        unfold wayFrom
        split
        · rw [Snapshot.listed_of_known answers unknown]
        · simp [unknown]
      simp [missing, unknown, pronounce, way, Snapshot.listed_of_known answers unknown]
  · exact .inl (by simp [missing, pronounce])

/-- A load whose last answer was about the lessons ends with the verdict on it. -/
theorem resume_redirect (answers : Answers) (page : LessonPage) {shared : Snapshot}
    (fresh : shared.IsFresh answers) (ticket : Ticket) (id : Lesson.Id) (cause : BackendError) :
    page.resume .untold answers shared (.redirect ticket id cause) =
      page.pronounce answers shared ticket (.missing id cause) := by
  -- By what is told of the lessons, which is put beside what is known.
  cases told : answers .lessons with
  | ok lessons =>
    simp only [resume, Catalog.takeLessons, told, Except.map, pronounce, wayFrom,
      fresh.apply_eq_listed told]
  | error error =>
    -- Lessons that cannot be fetched are not there.
    have none : shared.lessons = [] := by
      rcases fresh with none | ⟨_, told', -⟩
      · exact none
      · simp [told] at told'
    simp [resume, Catalog.takeLessons, told, Except.map, pronounce, wayFrom, none,
      Snapshot.listed_of_error told]

/-- Each step of a load but the last leaves all as it is, and the verdict too; the last one
pronounces it. -/
theorem resume_judged (answers : Answers) (page : LessonPage) (shared : Snapshot) {on : Waiting}
    {ticket : Ticket} {verdict : Verdict} (judged : on.verdict? answers = some (ticket, verdict))
    (fresh : on.call = .lessons → shared.IsFresh answers) :
    page.resume .untold answers shared on = page.pronounce answers shared ticket verdict ∨
      ∃ next, page.resume .untold answers shared on = ⟨page, shared, .waiting next⟩ ∧
        next.verdict? answers = some (ticket, verdict) := by
  -- A lesson or a model may be missed at two steps, which are alike.
  have missed (id : Lesson.Id) (cause : BackendError) :
      seekRedirect page shared ticket id cause =
          page.pronounce answers shared ticket (.ofError id cause) ∨
        ∃ next, seekRedirect page shared ticket id cause = ⟨page, shared, .waiting next⟩ ∧
          next.verdict? answers = some (ticket, .ofError id cause) := by
    rcases seekRedirect_judged answers page shared ticket id cause with ended | ⟨waits, missing⟩
    · exact .inl ended
    · exact .inr ⟨_, waits, by simp [Waiting.verdict?, Verdict.ofError, missing]⟩
  -- Which answer decides the verdict next is told by what the load waits for.
  cases on with
  | route | selection => cases judged
  | redirect ticket id cause =>
    cases judged
    exact .inl (resume_redirect answers page (fresh rfl) ticket id cause)
  | model ticket id lesson source =>
    cases judged
    cases told : answers (.compile (.example source)) with
    | error cause =>
      simp only [resume, Verdict.ofModel, told]
      exact missed id cause
    | ok model =>
      simp only [resume, Verdict.ofModel, told]
      exact .inl rfl
  | lesson ticket id =>
    cases judged
    cases told : answers (.lesson id) with
    | error cause =>
      simp only [resume, Verdict.ofLesson, told]
      exact missed id cause
    | ok lesson =>
      simp only [resume, Verdict.ofLesson, told]
      cases (lesson : Lesson).model with
      | some source => exact .inr ⟨_, rfl, rfl⟩
      | none => exact .inl rfl

/-- A run of the selector comes to the same before the lessons are fetched and after. -/
theorem resume_selection_listed (answers : Answers) (page : LessonPage) (shared : Snapshot)
    (ticket : Ticket) (request : Selection.Request) :
    page.resume .untold answers (shared.listed answers) (.selection ticket request) =
      { page.resume .untold answers shared (.selection ticket request) with
        shared := (page.resume .untold answers shared (.selection ticket request)).shared.listed
          answers } := by
  -- A run changes the result and its history only, and these do not touch the lessons.
  cases current : page.tickets.isCurrent ticket with
  | false => simp [resume, current]
  | true =>
    cases told : answers (.select request) with
    | ok result => simp [resume, current, told, Snapshot.listed_apply answers shared]
    | error error => simp [resume, current, told]

end LessonPage

/-- A call of the playground with a ticket comes to the same before the lessons are fetched and
after. -/
theorem Playground.resume_listed (answers : Answers) (page : Playground) (shared : Snapshot)
    {on : Waiting} {errand : Errand} {ticket : Ticket}
    (holds : on.held? = some (errand, ticket)) :
    page.resume .untold answers (shared.listed answers) on =
      { page.resume .untold answers shared on with
        shared := (page.resume .untold answers shared on).shared.listed answers } := by
  -- What the page changes is the model or the result, and those can wait for the lessons.
  cases on with
  | catalog on => cases holds
  | compile ticket source =>
    cases current : page.tickets.isCurrent ticket with
    | false => simp [resume, current]
    | true =>
      cases told : answers (.compile source) with
      | ok model => simp [resume, current, told, Snapshot.listed_apply answers]
      | error error => simp [resume, current, told]
  | selection ticket request =>
    cases current : page.tickets.isCurrent ticket with
    | false => simp [resume, current]
    | true =>
      cases told : answers (.select request) with
      | ok result => simp [resume, current, told, Snapshot.listed_apply answers]
      | error error => simp [resume, current, told]

/-- The result of a call on some errand whose answer is dropped. -/
def Errand.dropped : Errand → Session.Result
  | load => .lesson (.loaded .superseded none)
  | lessonRun => .lesson (.done .superseded)
  | compile => .playground (.done .superseded)
  | playgroundRun => .playground (.done .superseded)

namespace Session

/-- All that can be seen of a session: neither the times of its history nor the calls that wait. -/
def visible (s : Session) : Session :=
  { s.undated with calls := [] }

/-- What is visible of a session tells the numbers that its lanes have reached. -/
@[simp] theorem visible_reached (s : Session) (errand : Errand) :
    s.visible.reached errand = s.reached errand := rfl

/-- A step of a call is the same at any time, whatever other calls wait. -/
theorem goOn_visible (now : Timestamp) (answers : Answers) (s : Session) (on : Waiting) :
    (s.goOn now answers on).map visible id = s.visible.goOn .untold answers on := by
  -- A step reads what it was waiting for, and not what else waits.
  have alone : ({ s.undated with calls := [] } : Session).goOn .untold answers on =
      (s.undated.goOn .untold answers on).map (fun t => { t with calls := [] }) id := by
    cases on with
    | lessons =>
      simp only [goOn]
      split <;> rfl
    | catalog | lesson | playground => rfl
  rw [visible, alone, ← goOn_undated now answers s on]
  rfl

/-- A session with the lessons fetched if there are none. -/
def listed (answers : Answers) (s : Session) : Session :=
  { s with shared := s.shared.listed answers }

/-- What the last step of a call comes to, if the backend gives these answers all along. -/
def conclude (answers : Answers) (s : Session) : Waiting → Step
  | .lesson on =>
    match on.verdict? answers with
    | some (ticket, verdict) =>
      s.withLesson (s.lesson.pronounce answers s.shared ticket verdict)
    -- Every other call with a ticket takes one step after its first.
    | none => s.goOn .untold answers (.lesson on)
  | on => s.goOn .untold answers on

/-- Whether a call will need the lessons. -/
def Waiting.seeks (answers : Answers) : Waiting → Bool
  | .lesson on => (on.verdict? answers).any (·.2.seeks)
  | _ => false

/-- All that a call with a ticket can be on, where all requests of a load are taken together. -/
inductive Waiting.Pursues (answers : Answers) : Waiting → Errand → Ticket → Prop
  /-- It loads a lesson. -/
  | load {on ticket verdict} (judged : on.verdict? answers = some (ticket, verdict)) :
      Pursues answers (.lesson on) .load ticket
  /-- It runs a selector on the lesson page. -/
  | lessonRun {ticket request} :
      Pursues answers (.lesson (.selection ticket request)) .lessonRun ticket
  /-- It compiles a model. -/
  | compile {ticket source} : Pursues answers (.playground (.compile ticket source)) .compile ticket
  /-- It runs a selector on the playground. -/
  | playgroundRun {ticket request} :
      Pursues answers (.playground (.selection ticket request)) .playgroundRun ticket

/-- A call with a ticket is on one of these errands. -/
theorem Waiting.pursues (answers : Answers) {on : Waiting} {errand : Errand} {ticket : Ticket}
    (holds : on.held? = some (errand, ticket)) : on.Pursues answers errand ticket := by
  -- By what is waited for: all that holds a ticket is on one of these errands.
  cases on with
  | lessons | catalog => cases holds
  | lesson on =>
    cases on with
    | route => cases holds
    | lesson | model | redirect => cases holds; exact .load rfl
    | selection => cases holds; exact .lessonRun
  | playground on =>
    cases on with
    | catalog => cases holds
    | compile => cases holds; exact .compile
    | selection => cases holds; exact .playgroundRun

section

variable {on : Waiting} {errand : Errand} {ticket : Ticket}

/-- A call with a ticket ends once it is concluded. -/
theorem conclude_finished (answers : Answers) (s : Session)
    (holds : on.held? = some (errand, ticket)) :
    ∃ result, (s.conclude answers on).2 = .finished result := by
  -- A load ends with its verdict, and every other call with its only answer.
  cases on.pursues answers holds with
  | @load _ _ verdict judged =>
    obtain ⟨result, finished⟩ := s.lesson.pronounce_finished answers s.shared ticket verdict
    exact ⟨.lesson result, by simp [conclude, judged, withLesson, finished, Progress.map]⟩
  | lessonRun =>
    simp only [conclude, LessonPage.Waiting.verdict?, goOn, withLesson, LessonPage.resume]
    split
    · split <;> exact ⟨_, rfl⟩
    · exact ⟨_, rfl⟩
  | compile | playgroundRun =>
    simp only [conclude, goOn, withPlayground, Playground.resume]
    split
    · split <;> exact ⟨_, rfl⟩
    · exact ⟨_, rfl⟩

/-- A call that is late leaves nothing behind but the lessons, if it needs them. -/
theorem conclude_of_late (answers : Answers) {s : Session}
    (holds : on.held? = some (errand, ticket))
    (late : (s.tickets errand.page).isCurrent ticket = false) :
    s.conclude answers on =
      (if on.seeks answers then s.listed answers else s, .finished errand.dropped) := by
  -- Only a load looks at something before it looks at its ticket, and that is the lessons.
  cases on.pursues answers holds with
  | @load _ _ verdict judged =>
    simp only [tickets, Errand.page] at late
    simp only [conclude, judged, LessonPage.pronounce_of_late answers s.shared late, withLesson,
      Waiting.seeks, Option.any_some]
    cases verdict.seeks <;> rfl
  | lessonRun =>
    simp only [tickets, Errand.page] at late
    simp [conclude, LessonPage.Waiting.verdict?, goOn, withLesson, LessonPage.resume, late,
      Waiting.seeks, Errand.dropped, Progress.map]
  | compile | playgroundRun =>
    simp only [tickets, Errand.page] at late
    simp [conclude, goOn, withPlayground, Playground.resume, late, Waiting.seeks, Errand.dropped,
      Progress.map]

/-- A call comes to the same whether or not the lessons are fetched before. -/
theorem conclude_listed (answers : Answers) (s : Session)
    (holds : on.held? = some (errand, ticket)) :
    (s.listed answers).conclude answers on =
      ((s.conclude answers on).1.listed answers, (s.conclude answers on).2) := by
  -- By the errands; each has its own lemma about the lessons.
  cases on.pursues answers holds with
  | load judged =>
    simp only [conclude, judged, listed, LessonPage.pronounce_listed]
    rfl
  | lessonRun =>
    simp only [conclude, LessonPage.Waiting.verdict?, goOn, listed,
      LessonPage.resume_selection_listed]
    rfl
  | @compile _ source =>
    have held : (Playground.Waiting.compile ticket source).held? = some (.compile, ticket) := rfl
    simp only [conclude, goOn, listed, Playground.resume_listed answers _ _ held]
    rfl
  | @playgroundRun _ request =>
    have held : (Playground.Waiting.selection ticket request).held? =
        some (.playgroundRun, ticket) := rfl
    simp only [conclude, goOn, listed, Playground.resume_listed answers _ _ held]
    rfl

/-- A call that is concluded makes no call late that is on an errand of the same kind. -/
theorem reached_conclude (answers : Answers) (s : Session)
    (holds : on.held? = some (errand, ticket)) :
    (s.conclude answers on).1.reached errand = s.reached errand := by
  -- What is applied makes only calls on other errands late.
  cases on.pursues answers holds with
  | load judged =>
    simp only [conclude, judged]
    exact s.lesson.pronounce_reached answers s.shared ticket _
  | lessonRun =>
    simp only [conclude, LessonPage.Waiting.verdict?, goOn, withLesson, LessonPage.resume]
    split
    · split <;> rfl
    · rfl
  | compile | playgroundRun =>
    simp only [conclude, goOn, withPlayground, Playground.resume]
    split
    · split <;> rfl
    · rfl

/-- The next step of a call with a ticket concludes it, or leaves all as it is, and with it what the
call will come to. -/
theorem goOn_concludes (answers : Answers) (s : Session) (holds : on.held? = some (errand, ticket))
    (fresh : on.call = .lessons → s.shared.IsFresh answers) :
    s.goOn .untold answers on = s.conclude answers on ∨
      ∃ next, s.goOn .untold answers on = (s, .waiting next) ∧ next.held? = on.held? ∧
        ∀ t : Session, t.conclude answers next = t.conclude answers on := by
  -- By the errand; only a load takes more than one step.
  cases on.pursues answers holds with
  | @load on _ verdict judged =>
    rcases s.lesson.resume_judged answers s.shared judged fresh with ended | ⟨next, waits, same⟩
    · exact .inl (by simp only [goOn, ended, conclude, judged])
    · refine .inr ⟨.lesson next, by rw [goOn, waits]; rfl, ?_, fun t => ?_⟩
      · -- A verdict is one on a load, and under its ticket.
        have held {on : LessonPage.Waiting}
            (judged : on.verdict? answers = some (ticket, verdict)) :
            on.held? = some (.load, ticket) := by
          cases on <;> cases judged <;> rfl
        exact (held same).trans (held judged).symm
      · simp only [conclude, same, judged]
  | lessonRun | compile | playgroundRun => exact .inl rfl

end

/-- Of two calls on errands of one kind that hold different tickets it does not matter which one is
concluded first. -/
theorem conclude_comm (answers : Answers) (s : Session) {on other : Waiting} {errand : Errand}
    {number number' : UInt64} (mine : on.held? = some (errand, ⟨errand.lane, number⟩))
    (theirs : other.held? = some (errand, ⟨errand.lane, number'⟩)) (apart : number ≠ number') :
    (s.conclude answers on).1.conclude answers other =
      (((s.conclude answers other).1.conclude answers on).1, (s.conclude answers other).2) := by
  -- A call that is late does nothing but fetch lessons, and that can be done first or last.
  have isLate {t : Session} {number : UInt64} (past : t.reached errand ≠ number) :
      (t.tickets errand.page).isCurrent ⟨errand.lane, number⟩ = false := by
    simpa [Tickets.isCurrent, reached] using past
  -- At most one of the tickets counts, and the call with the other one fetches lessons at most.
  by_cases counts : s.reached errand = number
  · have past : s.reached errand ≠ number' := counts ▸ apart
    rw [conclude_of_late answers theirs (isLate past), conclude_of_late answers theirs
      (isLate (by rw [reached_conclude answers s mine]; exact past))]
    cases other.seeks answers
    · rfl
    · simp only [if_true, conclude_listed answers s mine]
  · rw [conclude_of_late answers mine (isLate counts), conclude_of_late answers mine
      (isLate (by rw [reached_conclude answers s theirs]; exact counts))]
    cases on.seeks answers
    · rfl
    · simp only [if_true, conclude_listed answers s theirs]

end Session

end SelectorTutorial
