import SelectorTutorial.Proofs.Session.Held

/-! Lessons that are known give way only to an answer that was asked for before they were known. -/

namespace SelectorTutorial

namespace Snapshot

/-- The lessons and their order are what they were. -/
def SameLessons (old new : Snapshot) : Prop :=
  new.lessons = old.lessons ∧ new.order = old.order

/-- The lessons are just these, and so is their order. -/
def Teaches (s : Snapshot) (lessons : List Lesson) : Prop :=
  s.lessons = lessons ∧ s.order = lessons.map (·.id)

/-- After an answer the lessons are what they were, unless it was lessons that were asked for: then
they may be just those of the answer. -/
def Learns (old new : Snapshot) (call : BackendCall) (answers : Answers) : Prop :=
  old.SameLessons new ∨
    call = .lessons ∧ ∃ lessons, answers .lessons = .ok lessons ∧ new.Teaches lessons

/-- The lessons of a session are its own. -/
theorem SameLessons.refl (s : Snapshot) : s.SameLessons s :=
  ⟨rfl, rfl⟩

/-- Lessons that stay the same twice stay the same. -/
theorem SameLessons.trans {s t u : Snapshot} (first : s.SameLessons t) (second : t.SameLessons u) :
    s.SameLessons u :=
  ⟨second.1.trans first.1, second.2.trans first.2⟩

/-- Only a change to the lessons changes them. -/
theorem sameLessons_apply (now : Timestamp) (s : Snapshot) {change : Change}
    (other : ∀ lessons, change ≠ .lessons lessons) : s.SameLessons (s.apply now change) := by
  -- Change by change; a result also goes to the history, which has no lessons.
  cases change with
  | lessons lessons => exact absurd rfl (other lessons)
  | result reached => cases reached <;> exact .refl _
  | examples | model | mode => exact .refl _

end Snapshot

/-! ### What an answer does to the lessons -/

/-- Lessons that are fetched are those of the answer. -/
theorem Catalog.learns_of_takeLessons {now : Timestamp} {answers : Answers} {old new : Snapshot}
    (taken : takeLessons now answers old = .ok new) : old.Learns new .lessons answers := by
  -- They are stored as they were answered.
  unfold takeLessons at taken
  cases answered : answers .lessons with
  | error error => simp [answered, Except.map] at taken
  | ok lessons =>
    simp only [answered, Except.map, Except.ok.injEq] at taken
    subst taken
    exact .inr ⟨rfl, lessons, answered, rfl, rfl⟩

/-- A step towards the lists learns lessons only if it waited for them. -/
theorem Catalog.resume_learns (now : Timestamp) (answers : Answers) (shared : Snapshot)
    (on : Waiting) : shared.Learns (resume now answers shared on).1 on.call answers := by
  -- The examples come after the lessons, and leave them alone.
  cases on with
  | lessons =>
    simp only [resume]
    split
    · next taken => exact learns_of_takeLessons taken
    · exact .inl (.refl _)
  | examples lessonsError =>
    simp only [resume]
    split <;> exact .inl (.refl _)

namespace LessonPage

/-- To give a load up does not touch what is shared. -/
@[simp] theorem failLoad_shared (page : LessonPage) (shared : Snapshot) (ticket : Ticket)
    (cause : BackendError) (redirect : Option Route) :
    (failLoad page shared ticket cause redirect).shared = shared := by
  -- Late or not, only the page changes.
  unfold failLoad
  split <;> rfl

/-- Looking for another lesson does not touch what is shared. -/
@[simp] theorem seekRedirect_shared (page : LessonPage) (shared : Snapshot) (ticket : Ticket)
    (id : Lesson.Id) (cause : BackendError) :
    (seekRedirect page shared ticket id cause).shared = shared := by
  -- The load is given up, or goes on to ask for the lessons; nothing is stored by that.
  unfold seekRedirect
  split
  · exact failLoad_shared ..
  · split
    · rfl
    · exact failLoad_shared ..

/-- Showing a lesson does not touch the list of them. -/
theorem finishLoad_sameLessons (now : Timestamp) (page : LessonPage) (shared : Snapshot)
    (ticket : Ticket) (lesson : Lesson) (model : Option Model) :
    shared.SameLessons (finishLoad now page shared ticket lesson model).shared := by
  -- It shares a model and clears the result, which are no lessons.
  unfold finishLoad
  split <;> exact .refl _

/-- A later step of a call learns lessons only if it waited for them. -/
theorem resume_learns (now : Timestamp) (answers : Answers) (page : LessonPage)
    (shared : Snapshot) (on : Waiting) :
    shared.Learns (page.resume now answers shared on).shared on.call answers := by
  -- By what the call waited for; two of the five are lessons.
  cases on with
  | route =>
    simp only [resume]
    split
    · next taken => exact Catalog.learns_of_takeLessons taken
    · exact .inl (.refl _)
  | redirect ticket id cause =>
    -- The lessons are taken before the ticket is looked at.
    simp only [resume]
    split
    · next taken =>
      rw [failLoad_shared]
      exact Catalog.learns_of_takeLessons taken
    · rw [failLoad_shared]
      exact .inl (.refl _)
  | lesson ticket id =>
    simp only [resume]
    split
    · rw [seekRedirect_shared]
      exact .inl (.refl _)
    · split
      · exact .inl (.refl _)
      · exact .inl (finishLoad_sameLessons ..)
  | model ticket id lesson source =>
    simp only [resume]
    split
    · rw [seekRedirect_shared]
      exact .inl (.refl _)
    · exact .inl (finishLoad_sameLessons ..)
  | selection ticket request =>
    simp only [resume]
    split
    · split <;> exact .inl (.refl _)
    · exact .inl (.refl _)

/-- A call that asks for the lessons with its first step knows none. -/
theorem Begins.asks {now : Timestamp} {page : LessonPage} {shared : Snapshot} {call : Call}
    {step : Step} {on : Waiting} (begins : Begins now page shared call step)
    (waits : step.progress = .waiting on) (asks : on.call = .lessons) :
    shared.lessons = [] ∧ step.shared = shared := by
  -- Only the call that looks for the first lesson needs the list of them.
  cases begins with
  | asked unknown => exact ⟨by simpa using unknown, rfl⟩
  | loads | runs => cases waits; cases asks
  | routed | skipped | toggled | unbound => cases waits

/-- A first step does not touch the list of lessons. -/
theorem Begins.sameLessons {now : Timestamp} {page : LessonPage} {shared : Snapshot} {call : Call}
    {step : Step} (begins : Begins now page shared call step) :
    shared.SameLessons step.shared := by
  -- The most that is shared at first is the mode of display.
  cases begins <;> exact .refl _

/-- A call that asks for the lessons later on knows none then. -/
theorem GoesOn.asks {now : Timestamp} {answers : Answers} {page : LessonPage} {shared : Snapshot}
    {on next : Waiting} {step : Step} (goesOn : GoesOn now answers page shared on step)
    (waits : step.progress = .waiting next) (asks : next.call = .lessons) :
    shared.lessons = [] ∧ step.shared = shared := by
  -- Only a load that looks for another lesson asks for the list of them later on.
  cases goesOn with
  | seeks _ _ unknown => exact ⟨by simpa using unknown, rfl⟩
  | fetched => cases waits; cases asks
  | found | lost | applied | failed | selected | refused | late => cases waits

end LessonPage

namespace Playground

/-- To go on preparing the page does not touch what is shared. -/
@[simp] theorem goOnPreparing_shared (page : Playground) (shared : Snapshot)
    (progress : Progress Catalog.Waiting Catalog.Status) :
    (goOnPreparing page shared progress).shared = shared := by
  -- The example is chosen in the form.
  cases progress <;> rfl

/-- A first step does not touch what is shared. -/
theorem Begins.shared_eq {page : Playground} {shared : Snapshot} {call : Call} {step : Step}
    (begins : Begins page shared call step) : step.shared = shared := by
  -- Only the form and the panels change at first.
  cases begins <;> rfl

/-- A later step of a call learns lessons only if it waited for them. -/
theorem resume_learns (now : Timestamp) (answers : Answers) (page : Playground)
    (shared : Snapshot) (on : Waiting) :
    shared.Learns (page.resume now answers shared on).shared on.call answers := by
  -- The lists are the catalog's matter, and the other answers are about models and results.
  cases on with
  | catalog on =>
    simp only [resume, goOnPreparing_shared]
    exact Catalog.resume_learns now answers shared on
  | compile | selection =>
    simp only [resume]
    split
    · split <;> exact .inl (.refl _)
    · exact .inl (.refl _)

end Playground

/-! ### Who asks for the lessons -/

namespace Catalog

/-- After the lessons it is the examples that are asked for, if anything is. -/
theorem goOn_waiting {lessonsError : Option String} {shared : Snapshot} {on : Waiting}
    (waits : goOn lessonsError shared = .waiting on) : on = .examples lessonsError := by
  -- The examples are known and it ends, or they are asked for.
  unfold goOn at waits
  split at waits <;> cases waits
  rfl

/-- Only an answer about the lessons is followed by another request, for the examples. -/
theorem resume_waiting {now : Timestamp} {answers : Answers} {shared : Snapshot}
    {on next : Waiting} (waits : (resume now answers shared on).2 = .waiting next) :
    on = .lessons ∧ ∃ lessonsError, next = .examples lessonsError := by
  -- After the examples nothing more is asked for.
  cases on with
  | lessons =>
    simp only [resume] at waits
    split at waits <;> exact ⟨rfl, _, goOn_waiting waits⟩
  | examples lessonsError =>
    simp only [resume] at waits
    split at waits <;> cases waits

/-- The lists are prepared without the examples only where no lessons are known. -/
theorem start_asks {shared : Snapshot} {on : Waiting} (waits : start shared = .waiting on)
    (asks : on.call = .lessons) : shared.lessons = [] := by
  -- Lessons that are known are passed over, and then only examples are asked for.
  unfold start at waits
  split at waits
  · next unknown => simpa using unknown
  · rw [goOn_waiting waits] at asks
    cases asks

/-- Lessons that cannot be fetched are not asked for again. -/
theorem resume_asks {now : Timestamp} {answers : Answers} {shared : Snapshot}
    {on next : Waiting} (waits : (resume now answers shared on).2 = .waiting next) :
    next.call ≠ .lessons := by
  -- After one list the other one is waited for, and that is the list of examples.
  obtain ⟨-, lessonsError, rfl⟩ := resume_waiting waits
  nofun

end Catalog

namespace Playground

/-- A part of what prepares the page waits for what it waits for. -/
theorem goOnPreparing_waiting {page : Playground} {shared : Snapshot}
    {progress : Progress Catalog.Waiting Catalog.Status} {on : Waiting}
    (waits : (goOnPreparing page shared progress).progress = .waiting on) :
    ∃ list, progress = .waiting list ∧ on = .catalog list := by
  -- What is finished is finished.
  cases progress <;> cases waits
  exact ⟨_, rfl, rfl⟩

/-- A call of the playground that asks for the lessons with its first step knows none. -/
theorem start_asks {page : Playground} {shared : Snapshot} {call : Call} {on : Waiting}
    (waits : (page.start shared call).progress = .waiting on) (asks : on.call = .lessons) :
    shared.lessons = [] := by
  -- By what the call does first.
  have begins := start_begins page shared call
  generalize made : page.start shared call = step at begins waits
  cases begins with
  | asked =>
    -- Of the calls of the playground only preparing it needs the lists.
    obtain ⟨list, started, rfl⟩ := goOnPreparing_waiting (made ▸ waits)
    exact Catalog.start_asks started asks
  | compiles | runs => cases waits; cases asks
  | prepared | skipped | unsupported | unreadable => cases waits

/-- No later step of a call of the playground asks for the lessons. -/
theorem resume_asks {now : Timestamp} {answers : Answers} {page : Playground} {shared : Snapshot}
    {on next : Waiting} (waits : (page.resume now answers shared on).progress = .waiting next) :
    next.call ≠ .lessons := by
  -- Only preparing the page waits again, and that for the examples.
  have goesOn := resume_goesOn now answers page shared on
  generalize made : page.resume now answers shared on = step at goesOn waits
  cases goesOn with
  | asked =>
    obtain ⟨list, resumed, rfl⟩ := goOnPreparing_waiting (made ▸ waits)
    exact Catalog.resume_asks resumed
  | prepared | applied | failed | selected | refused | late => cases waits

end Playground

namespace Session

/-- A first step does not touch the list of lessons, and it asks for them only if none are known. -/
theorem begin_lessons (now : Timestamp) (s : Session) (call : Call) :
    s.shared.SameLessons (s.begin now call).1.shared ∧
      ∀ on, (s.begin now call).2 = .waiting on → on.call = .lessons → s.shared.lessons = [] := by
  -- Each call that needs the lessons looks first whether they are there.
  cases call with
  | ensureLessons =>
    simp only [begin]
    split
    · next unknown => exact ⟨.refl _, fun _ _ _ => by simpa using unknown⟩
    · exact ⟨.refl _, fun _ waits => by cases waits⟩
  | ensureCatalog =>
    refine ⟨.refl _, fun on waits asks => ?_⟩
    obtain ⟨next, started, rfl⟩ := Progress.map_eq_waiting.1 waits
    exact Catalog.start_asks started asks
  | lesson call =>
    have begins := LessonPage.start_begins now s.lesson s.shared call
    refine ⟨begins.sameLessons, fun on waits asks => ?_⟩
    obtain ⟨next, started, rfl⟩ := Progress.map_eq_waiting.1 waits
    exact (begins.asks started asks).1
  | playground call =>
    have begins := Playground.start_begins s.playground s.shared call
    refine ⟨by rw [begin, withPlayground, begins.shared_eq]; exact .refl _, fun on waits asks => ?_⟩
    obtain ⟨next, started, rfl⟩ := Progress.map_eq_waiting.1 waits
    exact Playground.start_asks started asks

/-- A later step learns lessons only if it waited for them. -/
theorem goOn_learns (now : Timestamp) (answers : Answers) (s : Session) (on : Waiting) :
    s.shared.Learns (s.goOn now answers on).1.shared on.call answers := by
  -- By what the call waits for; the pages and the catalog have said it for themselves.
  cases on with
  | lessons =>
    simp only [goOn]
    split
    · next taken => exact Catalog.learns_of_takeLessons taken
    · exact .inl (.refl _)
  | catalog on => exact Catalog.resume_learns now answers s.shared on
  | lesson on => exact LessonPage.resume_learns now answers s.lesson s.shared on
  | playground on => exact Playground.resume_learns now answers s.playground s.shared on

/-- A later step asks for lessons only if none are known, and leaves what is shared alone then. -/
theorem goOn_asks {now : Timestamp} {answers : Answers} {s : Session} {on next : Waiting}
    (waits : (s.goOn now answers on).2 = .waiting next) (asks : next.call = .lessons) :
    s.shared.lessons = [] ∧ (s.goOn now answers on).1.shared = s.shared := by
  -- Only a load that looks for another lesson asks for the lessons in a later step.
  cases on with
  | lessons =>
    simp only [goOn] at waits
    split at waits <;> cases waits
  | catalog on =>
    obtain ⟨next, resumed, rfl⟩ := Progress.map_eq_waiting.1 waits
    exact absurd asks (Catalog.resume_asks resumed)
  | lesson on =>
    obtain ⟨next, resumed, rfl⟩ := Progress.map_eq_waiting.1 waits
    exact (LessonPage.resume_goesOn now answers s.lesson s.shared on).asks resumed asks
  | playground on =>
    obtain ⟨next, resumed, rfl⟩ := Progress.map_eq_waiting.1 waits
    exact absurd asks (Playground.resume_asks resumed)

namespace Stage

/-- Where an answer arrives the lessons stay, unless it is the answer to a call that waits for
lessons, and tells some. -/
theorem lessons_of_arrival {g : Stage} {number : Nat} {answers : Answers}
    (arrived : g.event = .arrival number answers) :
    g.before.shared.SameLessons g.after.shared ∨
      ∃ on lessons, g.before.waiting? number = some on ∧ on.call = .lessons ∧
        answers .lessons = .ok lessons ∧ g.after.shared.Teaches lessons := by
  -- The answer is for the call that waits, and what it brings is for what that call asked for.
  cases waits : g.before.waiting? number with
  | none =>
    rw [(of_stray arrived waits).1]
    exact .inl (.refl _)
  | some on =>
    rw [(of_arrival arrived waits).1]
    rcases goOn_learns g.time answers g.before on with same | ⟨asks, lessons, answered, teaches⟩
    · exact .inl same
    · exact .inr ⟨on, lessons, rfl, asks, answered, teaches⟩

/-- Lessons are asked for only where none are known, and asking tells none. -/
theorem Requests.unknown {g : Stage} {number : Nat} (requests : g.Requests number .lessons) :
    g.before.shared.lessons = [] ∧ g.before.shared.SameLessons g.after.shared := by
  obtain ⟨on, taken, asks⟩ := requests
  -- The request is sent by the first step of a call, or by one that some answer lets go on.
  rcases IsAbout.started_or_answered ⟨_, taken⟩ with ⟨call, called, -⟩ |
    ⟨answers, old, arrived, waits⟩
  · obtain ⟨after, taken'⟩ := of_call called
    rw [taken, Option.some.injEq, Prod.mk.injEq] at taken'
    obtain ⟨same, unknown⟩ := begin_lessons g.time g.before call
    rw [after]
    exact ⟨unknown on taken'.2.symm asks, same⟩
  · obtain ⟨after, taken'⟩ := of_arrival arrived waits
    rw [taken, Option.some.injEq, Prod.mk.injEq] at taken'
    obtain ⟨unknown, same⟩ := goOn_asks taken'.2.symm asks
    rw [after]
    exact ⟨unknown, by simp only [same]; exact .refl _⟩

/-- An edit leaves the lessons alone, unless it puts others in their place. -/
theorem lessons_of_edit {g : Stage} {edit : Edit} (edited : g.event = .edit edit)
    (unmeddled : ∀ lessons, edit ≠ .share (.lessons lessons)) :
    g.before.shared.SameLessons g.after.shared := by
  -- All other edits are to the pages, or to other parts of what is shared.
  rw [(of_edit edited).1]
  cases edit with
  | share change =>
    refine Snapshot.sameLessons_apply g.time _ fun lessons same => unmeddled lessons ?_
    rw [same]
  | clearSelection => exact .refl _
  | setSelection | resetSelection | toggleSolution | form => exact .refl _

end Stage

/-- A call waits for the lessons. -/
def AwaitsLessons (s : Session) : Prop :=
  ∃ number on, s.waiting? number = some on ∧ on.call = .lessons

/-- Lessons that are known, and that no call waits for, stay, and no call comes to wait for them. -/
theorem Stage.keepsLessons {g : Stage} (known : g.before.shared.lessons ≠ [])
    (unawaited : ¬ g.before.AwaitsLessons)
    (unmeddled : ∀ lessons, g.event ≠ .edit (.share (.lessons lessons))) :
    g.before.shared.SameLessons g.after.shared ∧ ¬ g.after.AwaitsLessons := by
  constructor
  · -- Lessons come only with an answer, and no call waits for one that tells any.
    cases event : g.event with
    | call call =>
      rw [(of_call event).1]
      exact (begin_lessons g.time g.before call).1
    | edit edit =>
      exact lessons_of_edit event fun lessons same => unmeddled lessons (same ▸ event)
    | arrival number answers =>
      rcases lessons_of_arrival event with same | ⟨on, lessons, waits, asks, -⟩
      · exact same
      · exact absurd ⟨number, on, waits, asks⟩ unawaited
  · -- A request for the lessons would be sent here, but they are known.
    rintro ⟨number, on, waits, asks⟩
    rcases waits_after waits with ⟨waits, -⟩ | ⟨_, -, -, sent⟩ | ⟨_, _, -, -, sent⟩
    · exact unawaited ⟨number, on, waits, asks⟩
    · exact known (Requests.unknown ⟨on, sent, asks⟩).1
    · exact known (Requests.unknown ⟨on, sent, asks⟩).1

/-- Lessons that are known, and that no call waits for, are kept by every run. -/
theorem keepsLessons_after {s : Session} {run : List Moment} (known : s.shared.lessons ≠ [])
    (unawaited : ¬ s.AwaitsLessons)
    (unmeddled : ∀ m ∈ run, ∀ lessons, m.event ≠ .edit (.share (.lessons lessons))) :
    s.shared.SameLessons (s.after run).shared ∧ ¬ (s.after run).AwaitsLessons := by
  -- Stage by stage they stay, and nothing begins to wait for them.
  refine after_of_kept (P := fun t => s.shared.SameLessons t.shared ∧ ¬ t.AwaitsLessons)
    ⟨.refl _, unawaited⟩ fun g member kept => ?_
  obtain ⟨same, unawaited⟩ := kept
  obtain ⟨stay, unawaited⟩ := g.keepsLessons (by rw [same.1]; exact known) unawaited
    (unmeddled _ (toMoment_mem member))
  exact ⟨same.trans stay, unawaited⟩

/-- Where an answer arrives while lessons are known, the lessons and their order stay, unless the
call that is answered had asked for lessons while none were known, and has waited since: then they
are those of the answer, whatever was known meanwhile.  And once no call waits for lessons any more,
none does so again and those that are known are kept, unless an edit puts others in their place. -/
theorem known_lessons_give_way_to_earlier_requests (shared : Snapshot) {run : List Moment}
    {past later : List Stage} {last : Stage} {number : Nat} {answers : Answers}
    (split : ({ shared } : Session).stages run = past ++ last :: later)
    (arrived : last.event = .arrival number answers) (known : last.before.shared.lessons ≠ []) :
    (last.before.shared.SameLessons last.after.shared ∨
      ∃ earlier first between lessons, past = earlier ++ first :: between ∧
        first.Requests number .lessons ∧ first.before.shared.lessons = [] ∧
        (∀ g ∈ between, ¬ g.IsAbout number) ∧ answers .lessons = .ok lessons ∧
        last.after.shared.Teaches lessons) ∧
    (¬ last.before.AwaitsLessons → ∀ rest : List Moment,
      (∀ m ∈ rest, ∀ lessons, m.event ≠ .edit (.share (.lessons lessons))) →
        last.before.shared.SameLessons (last.before.after rest).shared ∧
          ¬ (last.before.after rest).AwaitsLessons) := by
  -- Other lessons come with an answer about lessons, and that had been asked for before.
  refine ⟨?_, fun unawaited rest => keepsLessons_after known unawaited⟩
  obtain ⟨run, m, rest, rfl, rfl, rfl, -⟩ := stages_eq_append_cons split
  rcases Stage.lessons_of_arrival arrived with same | ⟨on, lessons, waits, asks, answered, teaches⟩
  · exact .inl same
  · -- What the call waits for it asked for at some stage, and then no lessons were known.
    rcases exists_sent waits with ⟨waits, -⟩ | ⟨earlier, first, between, split, sent, still⟩
    · simp [waiting?] at waits
    · have requests : first.Requests number .lessons := ⟨on, sent, asks⟩
      exact .inr ⟨earlier, first, between, lessons, split, requests, requests.unknown.1, still,
        answered, teaches⟩

/-- A backend that has one lesson. -/
def welcomeAnswers : Answers
  | .lessons => .ok [{ id := ⟨"welcome"⟩, title := "Welcome" }]
  | _ => .error (.unreachable "timeout")

/-- The same backend once it has no lessons any more. -/
def emptyAnswers : Answers
  | .lessons => .ok []
  | _ => .error (.unreachable "timeout")

/-- Both pages need the lessons, and the first of them gets one. -/
def racingRun : List Moment := [
  ⟨⟨0⟩, .call (.lesson (.resolveRoute none))⟩, ⟨⟨1⟩, .call (.playground .prepare)⟩,
  ⟨⟨2⟩, .arrival 0 welcomeAnswers⟩]

/-- Then the other page gets its answer, that there are none. -/
def emptying : Stage :=
  (({} : Session).after racingRun).stage ⟨⟨3⟩, .arrival 1 emptyAnswers⟩

/-- The lesson that was known is lost to a request that was sent before it was known. -/
theorem lessons_lost_to_earlier_request :
    (({} : Session).stages (racingRun ++ [emptying.toMoment]) =
        ({} : Session).stages racingRun ++ emptying :: [] ∧
      emptying.event = .arrival 1 emptyAnswers ∧ emptying.before.shared.lessons ≠ []) ∧
    ∃ earlier first between lessons,
      ({} : Session).stages racingRun = earlier ++ first :: between ∧
      first.Requests 1 .lessons ∧ first.before.shared.lessons = [] ∧
      (∀ g ∈ between, ¬ g.IsAbout 1) ∧ emptyAnswers .lessons = .ok lessons ∧
      emptying.after.shared.Teaches lessons := by
  -- The lessons are not those from before, so the theorem leads to the request that was sent before
  -- they were known.
  have known : emptying.before.shared.lessons ≠ [] := by decide
  have split : ({} : Session).stages (racingRun ++ [emptying.toMoment]) =
      ({} : Session).stages racingRun ++ emptying :: [] := stages_append ..
  obtain ⟨gives, -⟩ := known_lessons_give_way_to_earlier_requests {} split rfl known
  refine ⟨⟨split, rfl, known⟩, ?_⟩
  rcases gives with same | given
  · exact absurd same.1 (by decide)
  · exact given

/-- Answers alone can lose lessons that are known: one lesson is known, and the next answer leaves
none. -/
theorem known_lessons_can_be_lost :
    ¬ ∀ (run : List Moment), (∀ m ∈ run, ∀ edit, m.event ≠ .edit edit) →
      ∀ g ∈ ({} : Session).stages run, ∀ number answers, g.event = .arrival number answers →
        g.before.shared.lessons ≠ [] → g.before.shared.SameLessons g.after.shared := by
  -- Both pages saw that there were no lessons before either was answered.
  intro kept
  have same := kept (racingRun ++ [emptying.toMoment]) (by simp [racingRun, emptying, stage])
    emptying (by simp [emptying, stage]) 1 emptyAnswers rfl (by decide)
  exact absurd same.1 (by decide)

end Session

end SelectorTutorial
