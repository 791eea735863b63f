import SelectorTutorial.Proofs.CommandLine.Runs
import SelectorTutorial.Proofs.Session.Settling

/-! What each call of a session asks for until it ends, when a program makes it and waits for it. -/

namespace SelectorTutorial

open Exchanged

/-- Where the order is that of the lessons, the lesson that comes first is the first of them. -/
theorem Snapshot.Teaches.firstLesson {s : Snapshot} {lessons : List Lesson}
    (teaches : s.Teaches lessons) : s.firstLesson = s.lessons.head?.map (·.id) := by
  -- The first of an order is the head of the list that it was made of.
  rw [Snapshot.firstLesson, teaches.1, teaches.2, List.head?_map]

/-- To compile something. -/
def BackendCall.IsCompile : BackendCall → Prop
  | compile _ => True
  | _ => False

/-- To run a selector. -/
def BackendCall.IsSelect : BackendCall → Prop
  | select _ => True
  | _ => False

/-- To fetch a mesh. -/
def BackendCall.IsAsset : BackendCall → Prop
  | asset _ => True
  | _ => False

namespace Session

/-- A call goes on from some step until it ends: what is exchanged meanwhile, and the session and
the result at the end. -/
inductive Completes (w : World) : List Request → Step → List Exchanged → Session → Result → Prop
  /-- The call has ended. -/
  | ended {earlier : List Request} {s : Session} {result : Result} :
      Completes w earlier (s, .finished result) [] s result
  /-- The call waits for something, and goes on once it is answered. -/
  | answered {earlier : List Request} {s t : Session} {on : Waiting} {answers : Answers}
      {first log : List Exchanged} {result : Result} (asks : Asks w earlier on.call answers first)
      (rest : Completes w (earlier ++ requests first) (s.goOn w.now answers on) log t result) :
      Completes w earlier (s, .waiting on) (first ++ log) t result

namespace Completes

variable {w : World} {earlier : List Request} {step : Step} {log : List Exchanged} {s t : Session}
  {result : Result}

/-- To go on with a call often enough is to go on until it ends. -/
theorem of_settle {most : Nat} {ending : Except String (Session × Result)}
    (runs : Runs w earlier (Script.settle most step) log ending)
    (enough : ∀ on, step.2 = .waiting on → on.left ≤ most) :
    ∃ t result, ending = .ok (t, result) ∧ Completes w earlier step log t result := by
  -- Each answer leaves the call with fewer to wait for, as the program counts them.
  induction most generalizing earlier step log with
  | zero =>
    obtain ⟨s, progress⟩ := step
    cases progress with
    | waiting on => exact absurd (enough on rfl) (by have := on.left_pos; omega)
    | finished result =>
      cases runs
      exact ⟨s, result, rfl, .ended⟩
  | succ most ih =>
    obtain ⟨s, progress⟩ := step
    cases progress with
    | finished result =>
      cases runs
      exact ⟨s, result, rfl, .ended⟩
    | waiting on =>
      cases runs with
      | ask asks rest =>
        have fewer : on.left ≤ most + 1 := enough on rfl
        obtain ⟨t, result, ends, completes⟩ := ih rest fun next waits => by
          have := left_lt_of_goOn waits
          omega
        exact ⟨t, result, ends, .answered asks completes⟩

/-- A program that makes a call goes on with it until it ends. -/
theorem of_perform {call : Call} {ending : Except String (Session × Result)}
    (runs : Runs w earlier (Script.perform s call) log ending) :
    ∃ t result, ending = .ok (t, result) ∧ Completes w earlier (s.begin ⟨0⟩ call) log t result :=
  -- No call waits more often than a program goes on with it.
  of_settle runs fun on _ => on.left_le_mostWaits

/-! ### The list of lessons -/

/-- The order stays that of the lessons. -/
theorem teaches (completes : Completes w earlier step log t result)
    (taught : step.1.shared.Teaches step.1.shared.lessons) : t.shared.Teaches t.shared.lessons := by
  -- By induction on the answers; each leaves lessons and order in step.
  induction completes with
  | ended => exact taught
  | @answered earlier s t on answers first log result asks rest ih =>
    -- Lessons that are learned come with their order, and others keep the one they had.
    refine ih ?_
    rcases s.goOn_learns w.now answers on with ⟨lessons, order⟩ | ⟨-, lessons, -, learned⟩
    · exact ⟨rfl, by rw [order, lessons]; exact taught.2⟩
    · exact ⟨rfl, by rw [learned.1]; exact learned.2⟩

/-- Lessons that are known are not asked for, and stay. -/
theorem known (completes : Completes w earlier step log t result)
    (known : step.1.shared.lessons ≠ [])
    (other : ∀ on, step.2 = .waiting on → on.call ≠ .lessons) :
    (∀ e ∈ log, e.call ≠ .lessons) ∧ t.shared.lessons = step.1.shared.lessons := by
  -- By induction on the answers, none of which is about the lessons.
  induction completes with
  | ended => exact ⟨by simp, rfl⟩
  | @answered earlier s t on answers first log result asks rest ih =>
    have asked : on.call ≠ .lessons := other on rfl
    -- Nothing is learned from an answer to another call.
    have same : (s.goOn w.now answers on).1.shared.lessons = s.shared.lessons := by
      rcases s.goOn_learns w.now answers on with same | ⟨lessons, -⟩
      · exact same.1
      · exact absurd lessons asked
    obtain ⟨rest, kept⟩ := ih (by rwa [same]) fun next waits asks =>
      known (goOn_asks waits asks).1
    refine ⟨fun e mem => ?_, kept.trans same⟩
    rcases List.mem_append.mp mem with mine | theirs
    · have listed := asks.sublist.subset (List.mem_map_of_mem mine)
      rw [List.mem_singleton] at listed
      rwa [listed]
    · exact rest e theirs

/-- A call asks for the lessons only if none are known, and leaves them alone otherwise. -/
theorem known_of_begin {now : Timestamp} {call : Call}
    (completes : Completes w earlier (s.begin now call) log t result)
    (known : s.shared.lessons ≠ []) :
    (∀ e ∈ log, e.call ≠ .lessons) ∧ t.shared.lessons = s.shared.lessons := by
  -- What a call asks for first is settled where it begins; from there on the known lessons keep it
  -- from asking.
  obtain ⟨same, asks⟩ := begin_lessons now s call
  obtain ⟨others, kept⟩ := completes.known (by rwa [same.1]) fun on waits lessons =>
    known (asks on waits lessons)
  exact ⟨others, kept.trans same.1⟩

/-- The order stays that of the lessons while a call is made. -/
theorem teaches_of_begin {now : Timestamp} {call : Call}
    (completes : Completes w earlier (s.begin now call) log t result)
    (taught : s.shared.Teaches s.shared.lessons) : t.shared.Teaches t.shared.lessons := by
  -- Where a call begins nothing is shared yet.
  have same := (begin_lessons now s call).1
  refine completes.teaches ⟨rfl, ?_⟩
  rw [same.1, same.2]
  exact taught.2

/-! ### The end of a call -/

/-- A call that waits for the last time ends with the answer. -/
theorem of_last {on : Waiting} (completes : Completes w earlier (s, .waiting on) log t result)
    (last : on.left = 1) :
    ∃ answers, Asks w earlier on.call answers log ∧
      s.goOn w.now answers on = (t, .finished result) := by
  cases completes with
  | @answered _ _ _ _ answers first log _ asks rest =>
    -- One wait was left, so the call cannot wait once more.
    generalize gone : s.goOn w.now answers on = step at rest
    obtain ⟨s', progress⟩ := step
    cases progress with
    | waiting next =>
      have fewer := left_lt_of_goOn (congrArg Prod.snd gone)
      have := next.left_pos
      omega
    | finished ending =>
      cases rest
      rw [List.append_nil]
      exact ⟨answers, asks, gone⟩

/-! ### The lists -/

/-- A call waits for a list. -/
inductive Awaits : Waiting → Catalog.Waiting → Prop
  /-- The lists are asked for themselves. -/
  | shell {list : Catalog.Waiting} : Awaits (.catalog list) list
  /-- The playground asks for them. -/
  | playground {list : Catalog.Waiting} : Awaits (.playground (.catalog list)) list

/-- What is still asked for after a list. -/
def followers : Catalog.Waiting → List BackendCall
  | .lessons => [.examples]
  | .examples _ => []

/-- After a list the next one is waited for, if any. -/
theorem Awaits.goOn {now : Timestamp} {answers : Answers} {on next : Waiting}
    {list : Catalog.Waiting} (awaits : Awaits on list)
    (waits : (s.goOn now answers on).2 = .waiting next) :
    ∃ other, Awaits next other ∧ (other.call :: followers other).Sublist (followers list) := by
  -- Either way it is the catalog that goes on, and after the lessons only the examples are left.
  cases awaits with
  | shell =>
    obtain ⟨other, resumed, rfl⟩ := Progress.map_eq_waiting.1 waits
    obtain ⟨rfl, lessonsError, rfl⟩ := Catalog.resume_waiting resumed
    exact ⟨_, .shell, .refl _⟩
  | playground =>
    obtain ⟨mine, resumed, rfl⟩ := Progress.map_eq_waiting.1 waits
    obtain ⟨other, fetched, rfl⟩ := Playground.goOnPreparing_waiting resumed
    obtain ⟨rfl, lessonsError, rfl⟩ := Catalog.resume_waiting fetched
    exact ⟨_, .playground, .refl _⟩

/-- The lists are asked for one after the other. -/
theorem sublist_of_awaits {more : List BackendCall}
    (completes : Completes w earlier step log t result)
    (awaits : ∀ on, step.2 = .waiting on →
      ∃ list, Awaits on list ∧ (list.call :: followers list).Sublist more) :
    (Exchanged.calls log).Sublist more := by
  -- By induction on the answers, with the lists that may still come as the bound.
  induction completes generalizing more with
  | ended => exact List.nil_sublist _
  | @answered earlier s t on answers first log result asks rest ih =>
    obtain ⟨list, awaits, listed⟩ := awaits on rfl
    -- This list is asked for at most once, and the rest only asks for the lists after it.
    have same : on.call = list.call := by cases awaits <;> rfl
    have first := asks.sublist
    rw [same] at first
    rw [calls_append]
    exact (first.append (ih fun next waits => awaits.goOn waits)).trans listed

/-- With no list at hand, or with some, at most these two are asked for. -/
theorem sublist_of_start {shared : Snapshot} {list : Catalog.Waiting}
    (waits : Catalog.start shared = .waiting list) :
    (list.call :: followers list).Sublist [.lessons, .examples] := by
  -- Lessons that are known are passed over.
  unfold Catalog.start at waits
  split at waits
  · cases waits
    exact .refl _
  · obtain ⟨lessonsError, rfl⟩ := Catalog.goOn_waiting waits
    exact List.sublist_cons_self _ _

/-- To have the lists at hand takes a request for the lessons and then one for the examples. -/
theorem of_ensureCatalog {now : Timestamp}
    (completes : Completes w earlier (s.begin now .ensureCatalog) log t result) :
    (Exchanged.calls log).Sublist [.lessons, .examples] := by
  -- The call waits for nothing but lists.
  refine completes.sublist_of_awaits fun on waits => ?_
  obtain ⟨list, started, rfl⟩ := Progress.map_eq_waiting.1 waits
  exact ⟨list, .shell, sublist_of_start started⟩

/-- So does preparing the playground. -/
theorem of_prepare {now : Timestamp}
    (completes : Completes w earlier (s.begin now (.playground .prepare)) log t result) :
    (Exchanged.calls log).Sublist [.lessons, .examples] := by
  -- The example is chosen at the end, when both lists are there, and takes no request.
  refine completes.sublist_of_awaits fun on waits => ?_
  obtain ⟨mine, prepares, rfl⟩ := Progress.map_eq_waiting.1 waits
  obtain ⟨list, started, rfl⟩ := Playground.goOnPreparing_waiting prepares
  exact ⟨list, .playground, sublist_of_start started⟩

/-! ### The playground -/

/-- To compile takes one request at most, and nothing gets in its way.  No result is left once
something else was compiled. -/
theorem of_compile {now : Timestamp}
    (completes : Completes w earlier (s.begin now (.playground .compile)) log t result) :
    AtMost 1 BackendCall.IsCompile log ∧
      ∃ outcome, result = .playground (.done outcome) ∧ outcome ≠ .superseded ∧
        (outcome = .applied → t.shared.result = none) := by
  -- By what the call does first; only a compilation has an answer to wait for.
  have begins := Playground.start_begins s.playground s.shared .compile
  rw [begin] at completes
  generalize s.playground.start s.shared .compile = mine at begins completes
  cases begins with
  | skipped =>
    cases completes
    exact ⟨.nil, .skipped, rfl, by simp, by simp⟩
  | unsupported =>
    cases completes
    exact ⟨.nil, _, rfl, by simp, by simp⟩
  | compiles =>
    obtain ⟨answers, asks, ends⟩ := completes.of_last rfl
    -- No other call was made meanwhile, so that the ticket still counts.
    have current := s.playground.tickets.isCurrent_issue .compile
    simp only [goOn, Playground.resume, current, if_true] at ends
    split at ends
    · cases ends
      exact ⟨asks.atMost trivial, _, rfl, by simp, fun _ => rfl⟩
    · cases ends
      exact ⟨asks.atMost trivial, _, rfl, by simp, by simp⟩

/-- To run the selector takes one request at most, and where there is none to run, all that is
shared stays as it is. -/
theorem of_playground_run {now : Timestamp}
    (completes : Completes w earlier (s.begin now (.playground .run)) log t result) :
    AtMost 1 BackendCall.IsSelect log ∧
      ∃ outcome, result = .playground (.done outcome) ∧
        (outcome = .skipped → t.shared = s.shared) := by
  -- A run ends at once, or waits for its one answer with a ticket that no other call can take from
  -- it.
  have begins := Playground.start_begins s.playground s.shared .run
  rw [begin] at completes
  generalize s.playground.start s.shared .run = mine at begins completes
  cases begins with
  | skipped =>
    cases completes
    exact ⟨.nil, _, rfl, fun _ => rfl⟩
  | unreadable =>
    cases completes
    exact ⟨.nil, _, rfl, by simp⟩
  | runs =>
    obtain ⟨answers, asks, ends⟩ := completes.of_last rfl
    have current := s.playground.tickets.isCurrent_issue .selection
    simp only [goOn, Playground.resume, current, if_true] at ends
    split at ends
    · cases ends
      exact ⟨asks.atMost trivial, _, rfl, by simp⟩
    · cases ends
      exact ⟨asks.atMost trivial, _, rfl, by simp⟩

/-! ### The page of a lesson -/

/-- A route to a lesson leads to that lesson. -/
theorem target_route_map (first : Option Lesson.Id) :
    (Result.lesson (.route (first.map .lesson))).target = first := by
  -- With and without a first lesson.
  cases first <;> rfl

/-- To find the first lesson takes one request for the lessons at most, and what is found is the
first one. -/
theorem of_resolveRoute {now : Timestamp}
    (completes : Completes w earlier (s.begin now (.lesson (.resolveRoute none))) log t result) :
    (Exchanged.calls log).Sublist [.lessons] ∧
      ∀ target, result.target = some target → t.shared.firstLesson = some target := by
  -- The lessons are asked for, or they are known; either way the first of them is the target.
  simp only [begin, LessonPage.start] at completes
  split at completes
  · obtain ⟨answers, asks, ends⟩ := completes.of_last rfl
    refine ⟨asks.sublist, ?_⟩
    simp only [goOn, LessonPage.resume] at ends
    split at ends
    · cases ends
      intro target found
      exact (target_route_map _).symm.trans found
    · cases ends
      intro target found
      cases found
  · cases completes
    refine ⟨List.nil_sublist _, fun target found => ?_⟩
    exact (target_route_map _).symm.trans found

/-- To run the selector of the page takes one request at most. -/
theorem of_lesson_run {now : Timestamp}
    (completes : Completes w earlier (s.begin now (.lesson .run)) log t result) :
    AtMost 1 BackendCall.IsSelect log := by
  -- A run ends at once, or waits for its one answer.
  have begins := LessonPage.start_begins now s.lesson s.shared .run
  rw [begin] at completes
  generalize s.lesson.start now s.shared .run = mine at begins completes
  cases begins with
  | skipped =>
    cases completes
    exact .nil
  | runs =>
    obtain ⟨answers, asks, -⟩ := completes.of_last rfl
    exact asks.atMost trivial

/-! ### The load of a lesson -/

/-- A load is given up: where it stood, or to go to the first lesson in place of one that is not
there. -/
inductive GivesUp (shared : Snapshot) (id : Lesson.Id) (cause : BackendError) : Result → Prop
  /-- There is nowhere to go. -/
  | here {message : String} : GivesUp shared id cause (.lesson (.loaded (.failed message) none))
  /-- The first lesson is gone to, unless that is the one that is not there. -/
  | elsewhere {message : String} (missing : cause.isNotFound) :
      GivesUp shared id cause
        (.lesson (.loaded (.failed message) (LessonPage.redirectFrom id shared)))

/-- To give a load up ends it. -/
theorem givesUp_of_failLoad {page : LessonPage} {shared : Snapshot} {ticket : Ticket}
    {cause : BackendError} {redirect : Option Route}
    (completes : Completes w earlier
      (s.withLesson (LessonPage.failLoad page shared ticket cause redirect)) log t result)
    (current : page.tickets.isCurrent ticket = true) :
    log = [] ∧ t.shared = shared ∧
      result = .lesson (.loaded (.failed (cause.shownIn .loadLesson)) redirect) := by
  -- The ticket counts, so what is told is the failure and not that the load came too late.
  simp only [LessonPage.failLoad, current, if_true] at completes
  cases completes
  exact ⟨rfl, rfl, rfl⟩

/-- A load that meets an error is given up; where a lesson is not there and no other lesson is
known, the lessons are asked for before. -/
theorem of_seekRedirect {page : LessonPage} {shared : Snapshot} {ticket : Ticket}
    {id : Lesson.Id} {cause : BackendError}
    (completes : Completes w earlier
      (s.withLesson (LessonPage.seekRedirect page shared ticket id cause)) log t result)
    (current : page.tickets.isCurrent ticket = true) :
    GivesUp t.shared id cause result ∧
      (log = [] ∨ cause.isNotFound ∧ shared.lessons = [] ∧
        ∃ list : Exchanged, list.call = .lessons ∧ log = [list]) := by
  -- Another lesson is looked for only in the place of one that is missing.
  unfold LessonPage.seekRedirect at completes
  split at completes
  · obtain ⟨rfl, -, rfl⟩ := givesUp_of_failLoad completes current
    exact ⟨.here, .inl rfl⟩
  · next missing =>
    have missing : cause.isNotFound := by simpa using missing
    split at completes
    · next unknown =>
      obtain ⟨answers, asks, ends⟩ := completes.of_last rfl
      -- The lessons are asked for, and whatever is answered the load ends with that.
      refine ⟨?_, asks.eq_nil_or_singleton.imp_right fun listed =>
        ⟨missing, List.isEmpty_iff.mp unknown, listed⟩⟩
      simp only [goOn, LessonPage.resume, LessonPage.failLoad, current, if_true] at ends
      split at ends
      · cases ends
        exact .elsewhere missing
      · cases ends
        exact .here
    · obtain ⟨rfl, rfl, rfl⟩ := givesUp_of_failLoad completes current
      exact ⟨.elsewhere missing, .inl rfl⟩

/-- What a load asks for: the lesson, and then either its model or, if there is no such lesson and
no other is known, the lessons. -/
inductive LoadAsks (w : World) (known : List Lesson) (id : Lesson.Id) : List Exchanged → Prop
  /-- No request could be sent. -/
  | nothing : LoadAsks w known id []
  /-- The lesson is asked for. -/
  | lesson {fetch : Exchanged} (asked : fetch.call = .lesson id) : LoadAsks w known id [fetch]
  /-- The lesson is there, and the asset that it names is compiled. -/
  | model {fetch compile : Exchanged} {lesson : Lesson} {asset : Example.Id}
      (asked : fetch.call = .lesson id)
      (answered : w.api.read (.lesson id) fetch.reply = .ok lesson)
      (named : lesson.model = some asset) (compiled : compile.call = .compile (.example asset)) :
      LoadAsks w known id [fetch, compile]
  /-- The lesson is not there. -/
  | lessons {fetch list : Exchanged} (asked : fetch.call = .lesson id)
      (missing : ∃ body, fetch.reply = .response 404 body) (unknown : known = [])
      (listed : list.call = .lessons) : LoadAsks w known id [fetch, list]

/-- What a load comes to: the lesson is shown, or it is given up. -/
inductive Loads (id : Lesson.Id) (log : List Exchanged) (shared : Snapshot) : Result → Prop
  /-- The lesson is shown. -/
  | applied : Loads id log shared (.lesson (.loaded .applied none))
  /-- There is nothing to show. -/
  | failed {message : String} : Loads id log shared (.lesson (.loaded (.failed message) none))
  /-- The lesson is not there, and another one is the first. -/
  | redirected {message : String} {target : Lesson.Id} {fetch : Exchanged} {rest : List Exchanged}
      (asked : log = fetch :: rest) (lesson : fetch.call = .lesson id)
      (missing : ∃ body, fetch.reply = .response 404 body)
      (first : shared.firstLesson = some target) (other : target ≠ id) :
      Loads id log shared (.lesson (.loaded (.failed message) (some (.lesson target))))

/-- A load that was given up has failed, and leads elsewhere only if its lesson was not there. -/
theorem GivesUp.loads {shared : Snapshot} {id : Lesson.Id} {cause : BackendError}
    (givesUp : GivesUp shared id cause result)
    (missed : cause.isNotFound → ∃ fetch rest, log = fetch :: rest ∧ fetch.call = .lesson id ∧
      ∃ body, fetch.reply = .response 404 body) : Loads id log shared result := by
  -- What gives up on a missing lesson may lead to the first lesson, and nothing else may.
  cases givesUp with
  | here => exact .failed
  | elsewhere missing =>
    obtain ⟨fetch, rest, asked, lesson, told⟩ := missed missing
    -- The first lesson is let through if it is another one.
    unfold LessonPage.redirectFrom
    cases other : shared.firstLesson.filter (· != id) with
    | none => exact .failed
    | some target =>
      obtain ⟨first, different⟩ := Option.filter_eq_some_iff.mp other
      exact .redirected asked lesson told first (by simpa using different)

/-- A load of a lesson that is there is shown. -/
theorem loads_of_finishLoad {now : Timestamp} {page : LessonPage} {shared : Snapshot}
    {ticket : Ticket} {lesson : Lesson} {model : Option Model} {id : Lesson.Id}
    (completes : Completes w earlier
      (s.withLesson (LessonPage.finishLoad now page shared ticket lesson model)) log t result)
    (current : page.tickets.isCurrent ticket = true) :
    log = [] ∧ ∀ asked, Loads id asked t.shared result := by
  -- The ticket counts, so the lesson is shown.
  simp only [LessonPage.finishLoad, current, if_true] at completes
  cases completes
  exact ⟨rfl, fun _ => .applied⟩

/-- A lesson that is there is shown once the asset that it names is compiled. -/
theorem of_model {page : LessonPage} {shared : Snapshot} {ticket : Ticket} {id : Lesson.Id}
    {lesson : Lesson} {asset : Example.Id}
    (completes : Completes w earlier
      (s.withLesson ⟨page, shared, .waiting (.model ticket id lesson asset)⟩) log t result)
    (current : page.tickets.isCurrent ticket = true) :
    (log = [] ∨ ∃ compile : Exchanged, compile.call = .compile (.example asset) ∧ log = [compile]) ∧
      ∀ asked, Loads id asked t.shared result := by
  -- By the answer to the compilation, the one call that is left to be made.
  cases completes with
  | @answered _ _ _ _ answers first rest _ asks completes =>
    have compiled := asks.eq_nil_or_singleton
    simp only [goOn, LessonPage.resume] at completes
    split at completes
    · next cause refused =>
      -- An asset that does not compile is never taken for a lesson that is not there.
      have found : ¬ cause.isNotFound := fun missing => by
        obtain ⟨_, same⟩ | ⟨_, same⟩ | ⟨_, same⟩ := (asks.missing refused missing).1 <;> cases same
      obtain ⟨givesUp, rfl | ⟨missing, -⟩⟩ := of_seekRedirect completes current
      · rw [List.append_nil]
        exact ⟨compiled, fun _ => givesUp.loads fun missing => absurd missing found⟩
      · exact absurd missing found
    · obtain ⟨rfl, loads⟩ := loads_of_finishLoad completes current
      rw [List.append_nil]
      exact ⟨compiled, loads⟩

/-- A load asks for nothing but what belongs to it, and its lesson is shown or it is given up. -/
theorem of_load {now : Timestamp} {id : Lesson.Id}
    (completes : Completes w earlier (s.begin now (.lesson (.load id))) log t result) :
    LoadAsks w s.shared.lessons id log ∧ Loads id log t.shared result := by
  -- By the answer about the lesson: it is missing, or it has an asset, or it has none.
  have current := s.lesson.tickets.isCurrent_issue .lesson
  cases completes with
  | @answered _ _ _ _ answers first rest _ asks completes =>
    simp only [goOn, LessonPage.resume] at completes
    split at completes
    · next cause refused =>
      obtain ⟨givesUp, sought⟩ := of_seekRedirect completes current
      constructor
      -- Where the lessons were sought, the request for the lesson was answered with 404.
      · rcases sought with rfl | ⟨missing, unknown, list, listed, rfl⟩
        · rw [List.append_nil]
          rcases asks.eq_nil_or_singleton with rfl | ⟨fetch, asked, rfl⟩
          · exact .nothing
          · exact .lesson asked
        · obtain ⟨-, request, body, rfl⟩ := asks.missing refused missing
          exact .lessons rfl ⟨body, rfl⟩ unknown listed
      · refine givesUp.loads fun missing => ?_
        obtain ⟨-, request, body, rfl⟩ := asks.missing refused missing
        exact ⟨_, rest, rfl, rfl, body, rfl⟩
    · next lesson answered =>
      -- An answer means that the request was sent.
      obtain ⟨request, reply, rfl, read⟩ := asks.exists_of_ok answered
      split at completes
      · next asset named =>
        obtain ⟨rfl | ⟨compile, compiled, rfl⟩, loads⟩ := of_model completes current
        · exact ⟨.lesson rfl, loads _⟩
        · exact ⟨.model rfl read named compiled, loads _⟩
      · obtain ⟨rfl, loads⟩ := loads_of_finishLoad completes current
        exact ⟨.lesson rfl, loads _⟩

end Completes

end Session

end SelectorTutorial
