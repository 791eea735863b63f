import SelectorTutorial.Proofs.Backend.Detail
import SelectorTutorial.Proofs.Navigation.LessonOrder
import SelectorTutorial.Proofs.Session.Exchange

/-! When the load of a lesson leads to another lesson, and why it leads no further than that. -/

namespace SelectorTutorial

/-- The page to go to in place of a lesson is that of the first lesson, if that is another one. -/
theorem LessonPage.redirectFrom_eq_some_iff {shared : Snapshot} {id : Lesson.Id} {route : Route} :
    redirectFrom id shared = some route ↔
      ∃ first, shared.firstLesson = some first ∧ first ≠ id ∧ route = .lesson first := by
  -- The filter keeps the first lesson just when it is another one.
  simp only [redirectFrom, Option.map_eq_some_iff, Option.filter_eq_some_iff, bne_iff_ne]
  constructor
  · rintro ⟨first, ⟨isFirst, other⟩, rfl⟩
    exact ⟨first, isFirst, other, rfl⟩
  · rintro ⟨first, isFirst, other, rfl⟩
    exact ⟨first, ⟨isFirst, other⟩, rfl⟩

/-- Where no lessons are known there is no first one. -/
theorem Snapshot.KeepsOrder.firstLesson_eq_none {s : Snapshot} (keeps : s.KeepsOrder)
    (unknown : s.lessons = []) : s.firstLesson = none := by
  -- The order is empty as well.
  rw [firstLesson, keeps, unknown]
  rfl

/-- Where there is a first lesson, lessons are known. -/
theorem Snapshot.KeepsOrder.lessons_ne_nil {s : Snapshot} (keeps : s.KeepsOrder)
    {first : Lesson.Id} (isFirst : s.firstLesson = some first) : s.lessons ≠ [] := by
  -- The order would be empty as well.
  intro unknown
  rw [keeps.firstLesson_eq_none unknown] at isFirst
  cases isFirst

/-- A reply with status 404 says that a lesson is not there. -/
theorem Api.read_lesson_notFound (api : Api) (id : Lesson.Id) (body : Option Bytes) :
    api.read (.lesson id) (.response 404 body) =
      .error (.notFound ("lesson " ++ id.text) (detail? body)) :=
  -- The status alone decides.
  rfl

namespace Session

/-- A call has ended, and leads to another page. -/
def Exchange.RedirectsTo (x : Exchange) (route : Route) : Prop :=
  ∃ outcome, x.progress = .finished (.lesson (.loaded outcome (some route)))

/-- A lesson is asked for, and the first of the replies has status 404. -/
def Misses (api : Api) (link : Link) (id : Lesson.Id) (request : Request)
    (replies rest : List Reply) : Prop :=
  api.send link (.lesson id) = .ok request ∧ ∃ body, replies = .response 404 body :: rest

/-- The lessons are looked up: what is asked for, and what is shared then. -/
inductive LooksUp (now : Timestamp) (api : Api) (link : Link) (shared : Snapshot) :
    List Reply → List Request → Snapshot → Prop
  /-- Lessons that are known are not asked for. -/
  | known {replies : List Reply} (known : shared.lessons ≠ []) :
      LooksUp now api link shared replies [] shared
  /-- No request can be sent. -/
  | unsent {error : BackendError} {replies : List Reply} (unknown : shared.lessons = [])
      (refused : api.send link .lessons = .error error) :
      LooksUp now api link shared replies [] shared
  /-- There is no reply. -/
  | unanswered {request : Request} (unknown : shared.lessons = [])
      (sent : api.send link .lessons = .ok request) :
      LooksUp now api link shared [] [request] shared
  /-- The reply does not tell the lessons. -/
  | untold {request : Request} {reply : Reply} {replies : List Reply} {error : BackendError}
      (unknown : shared.lessons = []) (sent : api.send link .lessons = .ok request)
      (failed : api.read .lessons reply = .error error) :
      LooksUp now api link shared (reply :: replies) [request] shared
  /-- The reply tells the lessons. -/
  | told {request : Request} {reply : Reply} {replies : List Reply} {lessons : List Lesson}
      (unknown : shared.lessons = []) (sent : api.send link .lessons = .ok request)
      (told : api.read .lessons reply = .ok lessons) :
      LooksUp now api link shared (reply :: replies) [request]
        (shared.apply now (.lessons lessons))

variable {now : Timestamp} {api : Api} {link : Link} {number : Nat} {s t : Session}
  {page : LessonPage} {shared looked : Snapshot} {ticket : Ticket} {id : Lesson.Id}
  {cause : BackendError} {replies : List Reply} {x : Exchange}

/-- The order stays that of the lessons when they are looked up. -/
theorem LooksUp.keepsOrder {asked : List Request}
    (looksUp : LooksUp now api link shared replies asked looked) (keeps : shared.KeepsOrder) :
    looked.KeepsOrder := by
  -- Lessons that are told are shared with their order.
  cases looksUp with
  | known | unsent | unanswered | untold => exact keeps
  | told => exact keeps.apply now _

/-- Lessons that are known stay. -/
theorem LooksUp.eq_of_known {asked : List Request}
    (looksUp : LooksUp now api link shared replies asked looked) (known : shared.lessons ≠ []) :
    looked = shared := by
  -- They are looked up only where there are none.
  cases looksUp with
  | known | unsent | unanswered | untold => rfl
  | told unknown => exact absurd unknown known

/-! ### The steps of a load -/

/-- A call that waits leads nowhere. -/
theorem not_redirectsTo_of_waiting {on : Waiting} (waits : x.progress = .waiting on)
    (route : Route) : ¬ x.RedirectsTo route := by
  -- Only a result leads anywhere.
  rintro ⟨outcome, finished⟩
  rw [waits] at finished
  cases finished

/-- A load that has ended leads where it was to lead. -/
theorem redirectsTo_iff_of_finished {outcome : Outcome} {redirect : Option Route}
    (finished : x.progress = .finished (.lesson (.loaded outcome redirect))) (route : Route) :
    x.RedirectsTo route ↔ redirect = some route := by
  -- The result says where to.
  rw [Exchange.RedirectsTo, finished]
  constructor
  · rintro ⟨outcome, same⟩
    cases same
    rfl
  · rintro rfl
    exact ⟨outcome, rfl⟩

namespace Reaches

/-- A call of the lesson page starts with a step of that page. -/
theorem of_start {call : LessonPage.Call}
    (reaches : Reaches now api link number (s.start now (.lesson call)) replies x) :
    ∃ t : Session,
      Reaches now api link number (t.withLesson (s.lesson.start now s.shared call)) replies x :=
  -- The call is noted in the session, and its step is that of the page.
  ⟨{ s with calls := _ }, reaches⟩

/-- A call of the lesson page goes on with a step of that page. -/
theorem of_answer {answers : Answers} {on : LessonPage.Waiting}
    (reaches : Reaches now api link number (s.answer now answers number (.lesson on)) replies x) :
    ∃ t : Session,
      Reaches now api link number (t.withLesson (s.lesson.resume now answers s.shared on)) replies
        x :=
  -- What the call waits for is noted in the session, and its step is that of the page.
  ⟨{ s with calls := _ }, reaches⟩

/-- A load that is given up ends with that. -/
theorem of_failLoad {redirect : Option Route}
    (reaches : Reaches now api link number
      (t.withLesson (LessonPage.failLoad page shared ticket cause redirect)) replies x)
    (current : page.tickets.isCurrent ticket = true) :
    x.requests = [] ∧ x.session.shared = shared ∧
      ∀ route, x.RedirectsTo route ↔ redirect = some route := by
  simp only [LessonPage.failLoad, current, if_true] at reaches
  -- The step ends the call, so nothing more is asked for.
  cases reaches with
  | ended => exact ⟨rfl, rfl, redirectsTo_iff_of_finished rfl⟩

/-- A load whose lesson is shown leads nowhere else. -/
theorem of_finishLoad {lesson : Lesson} {model : Option Model}
    (reaches : Reaches now api link number
      (t.withLesson (LessonPage.finishLoad now page shared ticket lesson model)) replies x)
    (current : page.tickets.isCurrent ticket = true) (route : Route) : ¬ x.RedirectsTo route := by
  -- The ticket counts, so the load is applied, and that has nowhere to lead.
  simp only [LessonPage.finishLoad, current, if_true] at reaches
  cases reaches with
  | ended =>
    intro leads
    cases (redirectsTo_iff_of_finished rfl route).mp leads

/-- A load that meets another error than that the lesson is not there leads nowhere else. -/
theorem of_seekRedirect_of_found
    (reaches : Reaches now api link number
      (t.withLesson (LessonPage.seekRedirect page shared ticket id cause)) replies x)
    (current : page.tickets.isCurrent ticket = true) (found : cause.isNotFound = false)
    (route : Route) : ¬ x.RedirectsTo route := by
  -- The load is given up at once, without a lesson to go to.
  simp only [LessonPage.seekRedirect, found, Bool.not_false, if_true] at reaches
  obtain ⟨-, -, leads⟩ := reaches.of_failLoad current
  simp [leads]

/-- A load that waits for the lessons ends with the page that leads elsewhere, once they are there
and if they do. -/
theorem of_redirect
    (reaches : Reaches now api link number
      (t.withLesson ⟨page, shared, .waiting (.redirect ticket id cause)⟩) replies x)
    (current : page.tickets.isCurrent ticket = true) (keeps : shared.KeepsOrder)
    (unknown : shared.lessons = []) :
    LooksUp now api link shared replies x.requests x.session.shared ∧
      ∀ route, x.RedirectsTo route ↔ LessonPage.redirectFrom id x.session.shared = some route := by
  -- As long as no lessons are known there is nowhere to go.
  have nowhere (route : Route) : ¬ LessonPage.redirectFrom id shared = some route := by
    simp [LessonPage.redirectFrom, keeps.firstLesson_eq_none unknown]
  have without {u : Session} {replies : List Reply} {x : Exchange}
      (rest : Reaches now api link number
        (u.withLesson (LessonPage.failLoad page shared ticket cause none)) replies x) :
      x.requests = [] ∧ x.session.shared = shared ∧ ∀ route, x.RedirectsTo route ↔
        LessonPage.redirectFrom id shared = some route := by
    obtain ⟨none, same, leads⟩ := rest.of_failLoad current
    exact ⟨none, same, fun route => by simp [leads, nowhere]⟩
  -- Each way to look up the lessons is a way for the call to go on.
  cases reaches with
  | left sent =>
    refine ⟨.unanswered unknown sent, fun route => iff_of_false ?_ (nowhere route)⟩
    exact not_redirectsTo_of_waiting rfl route
  | unsent refused rest =>
    obtain ⟨u, rest⟩ := rest.of_answer
    obtain ⟨none, same, leads⟩ := without rest
    rw [none, same]
    exact ⟨.unsent unknown refused, leads⟩
  | @replied _ _ request reply replies x sent rest =>
    obtain ⟨u, rest⟩ := rest.of_answer
    cases answered : api.read .lessons reply with
    | error error =>
      have step : page.resume now (api.answers reply) shared (.redirect ticket id cause) =
          LessonPage.failLoad page shared ticket cause none := by
        simp [LessonPage.resume, Catalog.takeLessons, Api.answers, answered, Except.map]
      obtain ⟨none, same, leads⟩ := without (step ▸ rest)
      simp only [none, same]
      exact ⟨.untold unknown sent answered, leads⟩
    | ok lessons =>
      have step : page.resume now (api.answers reply) shared (.redirect ticket id cause) =
          LessonPage.failLoad page (shared.apply now (.lessons lessons)) ticket cause
            (LessonPage.redirectFrom id (shared.apply now (.lessons lessons))) := by
        simp [LessonPage.resume, Catalog.takeLessons, Api.answers, answered, Except.map]
      -- The lessons are shared by the step that looks for the first of them.
      obtain ⟨none, same, leads⟩ := (step ▸ rest).of_failLoad current
      simp only [none, same]
      exact ⟨.told unknown sent answered, leads⟩

/-- A load that meets the error that the lesson is not there ends with the page that leads
elsewhere, once the lessons were looked up. -/
theorem of_seekRedirect_of_missing
    (reaches : Reaches now api link number
      (t.withLesson (LessonPage.seekRedirect page shared ticket id cause)) replies x)
    (current : page.tickets.isCurrent ticket = true) (keeps : shared.KeepsOrder)
    (missing : cause.isNotFound = true) :
    LooksUp now api link shared replies x.requests x.session.shared ∧
      ∀ route, x.RedirectsTo route ↔ LessonPage.redirectFrom id x.session.shared = some route := by
  -- By whether lessons are known.
  by_cases unknown : shared.lessons = []
  · simp only [LessonPage.seekRedirect, missing, unknown, Bool.not_true, List.isEmpty_nil, if_true,
      Bool.false_eq_true, if_false] at reaches
    exact reaches.of_redirect current keeps unknown
  · -- What is known is enough to tell where the page leads.
    simp only [LessonPage.seekRedirect, missing, List.isEmpty_iff, unknown, Bool.not_true,
      Bool.false_eq_true, if_false] at reaches
    obtain ⟨none, same, leads⟩ := reaches.of_failLoad current
    rw [none, same]
    exact ⟨.known unknown, leads⟩

/-- A load that waits for a model leads nowhere else, whatever is said of the model. -/
theorem of_model {lesson : Lesson} {source : Example.Id}
    (reaches : Reaches now api link number
      (t.withLesson ⟨page, shared, .waiting (.model ticket id lesson source)⟩) replies x)
    (current : page.tickets.isCurrent ticket = true) (route : Route) : ¬ x.RedirectsTo route := by
  -- By whether the request is sent and answered, and then by what is read of the reply.
  cases reaches with
  | left sent => exact not_redirectsTo_of_waiting rfl route
  | unsent refused rest =>
    obtain ⟨u, rest⟩ := rest.of_answer
    exact rest.of_seekRedirect_of_found current (Api.isUnsent_of_send refused).isNotFound_eq route
  | @replied _ _ _ reply _ _ sent rest =>
    obtain ⟨u, rest⟩ := rest.of_answer
    cases compiled : api.read (.compile (.example source)) reply with
    | error error =>
      have step : page.resume now (api.answers reply) shared (.model ticket id lesson source) =
          LessonPage.seekRedirect page shared ticket id error := by
        simp [LessonPage.resume, Api.answers, compiled]
      -- A source that is not there counts as one that was rejected.
      have found : error.isNotFound = false := by
        by_contra missing
        obtain ⟨-, isForOne⟩ := Api.isMissed_of_read compiled (Bool.not_eq_false _ ▸ missing)
        simp [BackendCall.IsForOne] at isForOne
      exact (step ▸ rest).of_seekRedirect_of_found current found route
    | ok model =>
      have step : page.resume now (api.answers reply) shared (.model ticket id lesson source) =
          LessonPage.finishLoad now page shared ticket lesson (some model) := by
        simp [LessonPage.resume, Api.answers, compiled]
      exact (step ▸ rest).of_finishLoad current route

/-- A load whose lesson was read leads nowhere else. -/
theorem of_read {reply : Reply} {lesson : Lesson}
    (reaches : Reaches now api link number
      (t.withLesson (page.resume now (api.answers reply) shared (.lesson ticket id))) replies x)
    (read : api.read (.lesson id) reply = .ok lesson)
    (current : page.tickets.isCurrent ticket = true) (route : Route) : ¬ x.RedirectsTo route := by
  -- The lesson is shown at once, or its model is waited for.
  cases model : lesson.model with
  | none =>
    have step : page.resume now (api.answers reply) shared (.lesson ticket id) =
        LessonPage.finishLoad now page shared ticket lesson none := by
      simp [LessonPage.resume, Api.answers, read, model]
    exact (step ▸ reaches).of_finishLoad current route
  | some source =>
    have step : page.resume now (api.answers reply) shared (.lesson ticket id) =
        ⟨page, shared, .waiting (.model ticket id lesson source)⟩ := by
      simp [LessonPage.resume, Api.answers, read, model]
    exact (step ▸ reaches).of_model current route

/-- A load whose lesson is not there ends with the page that leads elsewhere, once the lessons were
looked up, and any other load leads nowhere else. -/
theorem of_lesson
    (reaches : Reaches now api link number
      (t.withLesson ⟨page, shared, .waiting (.lesson ticket id)⟩) replies x)
    (current : page.tickets.isCurrent ticket = true) (keeps : shared.KeepsOrder) :
    (∀ request rest, Misses api link id request replies rest →
      ∃ asked, LooksUp now api link shared rest asked x.session.shared ∧
        x.requests = request :: asked ∧
        ∀ route, x.RedirectsTo route ↔
          LessonPage.redirectFrom id x.session.shared = some route) ∧
    ((¬ ∃ request rest, Misses api link id request replies rest) →
      ∀ route, ¬ x.RedirectsTo route) := by
  -- By whether the request is sent and answered, and then by what is read of the reply.
  cases reaches with
  | left sent =>
    refine ⟨?_, fun _ => not_redirectsTo_of_waiting rfl⟩
    -- A lesson is not missed before there is a reply.
    rintro request rest ⟨-, body, none⟩
    cases none
  | unsent refused rest =>
    obtain ⟨u, rest⟩ := rest.of_answer
    refine ⟨?_, fun _ => rest.of_seekRedirect_of_found current
      (Api.isUnsent_of_send refused).isNotFound_eq⟩
    -- Nor is it missed when it was not asked for.
    rintro request rest ⟨sent, -⟩
    cases refused.symm.trans sent
  | @replied _ _ request reply replies x sent rest =>
    obtain ⟨u, rest⟩ := rest.of_answer
    cases read : api.read (.lesson id) reply with
    | error error =>
      have step : page.resume now (api.answers reply) shared (.lesson ticket id) =
          LessonPage.seekRedirect page shared ticket id error := by
        simp [LessonPage.resume, Api.answers, read]
      have rest := step ▸ rest
      refine ⟨?missed, fun unmissed => rest.of_seekRedirect_of_found current ?_⟩
      case missed =>
        -- The error is the one that status 404 is read as, and that is looked up.
        rintro _ _ ⟨asked, body, replied⟩
        cases sent.symm.trans asked
        cases replied
        cases (Api.read_lesson_notFound api id body).symm.trans read
        obtain ⟨looksUp, leads⟩ := rest.of_seekRedirect_of_missing current keeps rfl
        exact ⟨_, looksUp, rfl, leads⟩
      · -- Only status 404 is read as the error that leads elsewhere.
        by_contra missing
        obtain ⟨⟨body, rfl⟩, -⟩ := Api.isMissed_of_read read (Bool.not_eq_false _ ▸ missing)
        exact unmissed ⟨request, replies, sent, body, rfl⟩
    | ok lesson =>
      refine ⟨?_, fun _ => rest.of_read read current⟩
      rintro _ _ ⟨-, body, replied⟩
      cases replied
      cases (Api.read_lesson_notFound api id body).symm.trans read

end Reaches

/-- A load leads elsewhere as the lessons say that were looked up, and only if its lesson is not
there. -/
theorem converse_load (keeps : s.shared.KeepsOrder) (now : Timestamp) (api : Api) (link : Link)
    (id : Lesson.Id) (replies : List Reply) :
    let x := s.converse now api link (.lesson (.load id)) replies
    (∀ request rest, Misses api link id request replies rest →
      ∃ asked, LooksUp now api link s.shared rest asked x.session.shared ∧
        x.requests = request :: asked ∧
        ∀ route, x.RedirectsTo route ↔
          LessonPage.redirectFrom id x.session.shared = some route) ∧
    ((¬ ∃ request rest, Misses api link id request replies rest) →
      ∀ route, ¬ x.RedirectsTo route) := by
  -- From its start the load waits for the lesson with a ticket that counts.
  have reaches : Reaches now api link s.calls.length (s.start now (.lesson (.load id))) replies
      (s.converse now api link (.lesson (.load id)) replies) := s.reaches_converse _ replies
  obtain ⟨t, reaches⟩ := reaches.of_start
  exact reaches.of_lesson (s.lesson.tickets.isCurrent_issue .lesson) keeps

/-- A load of the lesson that comes first leads nowhere else. -/
theorem not_redirectsTo_of_isFirst {first : Lesson.Id} (keeps : s.shared.KeepsOrder)
    (isFirst : s.shared.firstLesson = some first) (now : Timestamp) (api : Api) (link : Link)
    (replies : List Reply) (route : Route) :
    ¬ (s.converse now api link (.lesson (.load first)) replies).RedirectsTo route := by
  -- A load that is missed leads to the first lesson, and this one is there already.
  obtain ⟨missed, unmissed⟩ := converse_load keeps now api link first replies
  by_cases misses : ∃ request rest, Misses api link first request replies rest
  · obtain ⟨request, rest, misses⟩ := misses
    obtain ⟨asked, looksUp, -, leads⟩ := missed request rest misses
    -- The lessons are known, so they stay, and the first of them is still the one that was loaded.
    rw [leads, LessonPage.redirectFrom_eq_some_iff,
      looksUp.eq_of_known (keeps.lessons_ne_nil isFirst), isFirst]
    rintro ⟨other, same, ne, -⟩
    exact ne (Option.some.inj same).symm
  · exact unmissed misses route

/-- Whatever was shared before and whatever the backend replies, a load leads elsewhere just when
the lesson was asked for and the reply had status 404, and then the lessons have a first one that is
another lesson; it leads to that one.  Before that the lessons are looked up, with a request just
when none are known.  A load whose lesson was read leads nowhere else, whatever is said of its
model.  And where a load leads elsewhere, loading that lesson next does not, with any replies. -/
theorem redirects_to_first_and_stays {s : Session} {log : List Snapshot.DatedChange}
    (stored : s.shared = (({} : Store).dispatchAll log).current) (now : Timestamp) (api : Api)
    (link : Link) (id : Lesson.Id) (replies : List Reply) :
    let x := s.converse now api link (.lesson (.load id)) replies
    (∀ route, x.RedirectsTo route ↔
      (∃ request rest, Misses api link id request replies rest) ∧
        ∃ first, x.session.shared.firstLesson = some first ∧ first ≠ id ∧ route = .lesson first) ∧
    (∀ request rest, Misses api link id request replies rest →
      ∃ asked, LooksUp now api link s.shared rest asked x.session.shared ∧
        x.requests = request :: asked) ∧
    (∀ reply rest lesson, replies = reply :: rest → api.read (.lesson id) reply = .ok lesson →
      ∀ route, ¬ x.RedirectsTo route) ∧
    ∀ first, x.RedirectsTo (.lesson first) → ∀ now api link replies route,
      ¬ (x.session.converse now api link (.lesson (.load first)) replies).RedirectsTo route := by
  -- A load is missed or not, and each case is known for a session that keeps its order.
  have keeps : s.shared.KeepsOrder := stored ▸ Snapshot.KeepsOrder.dispatchAll {} rfl log
  obtain ⟨missed, unmissed⟩ := converse_load keeps now api link id replies
  intro x
  have leads (route : Route) : x.RedirectsTo route ↔
      (∃ request rest, Misses api link id request replies rest) ∧
        ∃ first, x.session.shared.firstLesson = some first ∧ first ≠ id ∧
          route = .lesson first := by
    by_cases misses : ∃ request rest, Misses api link id request replies rest
    · obtain ⟨request, rest, misses⟩ := misses
      obtain ⟨asked, -, -, leads⟩ := missed request rest misses
      rw [leads, LessonPage.redirectFrom_eq_some_iff]
      exact (and_iff_right ⟨request, rest, misses⟩).symm
    · exact iff_of_false (unmissed misses route) (mt And.left misses)
  refine ⟨leads, ?lookedUp, ?read, ?ends⟩
  case lookedUp =>
    intro request rest misses
    obtain ⟨asked, looksUp, requests, -⟩ := missed request rest misses
    exact ⟨asked, looksUp, requests⟩
  case read =>
    -- A reply that holds a lesson has not the status 404.
    intro reply rest lesson replied read
    refine unmissed ?_
    rintro ⟨request, rest, -, body, missing⟩
    cases replied.symm.trans missing
    cases (Api.read_lesson_notFound api id body).symm.trans read
  case ends =>
    -- The lesson that the first load leads to is the first of those that are shared afterwards.
    intro first redirects
    obtain ⟨⟨request, rest, misses⟩, other, isFirst, -, same⟩ := (leads _).mp redirects
    obtain rfl : first = other := by simpa [Route.lesson] using same
    obtain ⟨asked, looksUp, -, -⟩ := missed request rest misses
    exact not_redirectsTo_of_isFirst (looksUp.keepsOrder keeps) isFirst

/-- The lesson that tells all others. -/
def welcome : Lesson :=
  { id := ⟨"welcome"⟩, title := "Welcome" }

/-- A session that knows one lesson. -/
def welcomed : Session :=
  { shared := (({} : Store).dispatchAll [⟨⟨0⟩, .lessons [welcome]⟩]).current }

/-- A lesson that is not there leads to the one that is known, and no further. -/
theorem missing_lesson_leads_to_welcome :
    let x := welcomed.converse ⟨1⟩ Api.nearby .up (.lesson (.load ⟨"missing"⟩)) [.response 404 none]
    x.RedirectsTo (.lesson welcome.id) ∧ ∀ now api link replies route,
      ¬ (x.session.converse now api link (.lesson (.load welcome.id)) replies).RedirectsTo
        route := by
  -- The reply says that the lesson is missing, so the first one that is known is led to.
  obtain ⟨leads, lookedUp, -, ends⟩ := redirects_to_first_and_stays (s := welcomed) rfl ⟨1⟩
    Api.nearby .up ⟨"missing"⟩ [.response 404 none]
  have misses : ∃ request, Misses Api.nearby .up ⟨"missing"⟩ request [.response 404 none] [] :=
    ⟨_, by rfl, none, rfl⟩
  obtain ⟨request, misses⟩ := misses
  obtain ⟨asked, looksUp, -⟩ := lookedUp request [] misses
  have same := looksUp.eq_of_known (by decide)
  have redirects := (leads (.lesson welcome.id)).mpr
    ⟨⟨request, [], misses⟩, welcome.id, by rw [same]; rfl, by decide, rfl⟩
  exact ⟨redirects, ends welcome.id redirects⟩

end Session

end SelectorTutorial
