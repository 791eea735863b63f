import SelectorTutorial.Proofs.Session.Run

/-! The time at which things happen is noted in the history, and decides nothing. -/

namespace SelectorTutorial

/-- The time that is put down where none is told. -/
def Timestamp.untold : Timestamp := ⟨0⟩

/-- An entry that does not tell its time. -/
def HistoryEntry.undated (e : HistoryEntry) : HistoryEntry :=
  { e with time := .untold }

/-- A snapshot whose history does not tell the times. -/
def Snapshot.undated (s : Snapshot) : Snapshot :=
  { s with history := s.history.map HistoryEntry.undated }

/-- A change comes to the same at any time, but for the time that it puts into the history. -/
@[simp] theorem Snapshot.undated_apply (s : Snapshot) (now : Timestamp) (change : Change) :
    (s.apply now change).undated = s.undated.apply .untold change := by
  -- Only a result that is reached is put down with its time.
  cases change with
  | result reached =>
    cases reached with
    | none => rfl
    | some result => simp [apply, undated, HistoryEntry.undated, List.map_take]
  | lessons | examples | model | mode => rfl

namespace Catalog

/-- The lessons that were fetched are the same at any time. -/
theorem takeLessons_undated (now : Timestamp) (answers : Answers) (shared : Snapshot) :
    (takeLessons now answers shared).map Snapshot.undated =
      takeLessons .untold answers shared.undated := by
  -- Lessons are stored without the time.
  unfold takeLessons
  cases answers .lessons with
  | ok lessons => exact congrArg Except.ok (Snapshot.undated_apply ..)
  | error error => rfl

/-- A step towards the lists is the same at any time. -/
theorem resume_undated (now : Timestamp) (answers : Answers) (shared : Snapshot) (on : Waiting) :
    (resume now answers shared on).map Snapshot.undated id =
      resume .untold answers shared.undated on := by
  -- By what is waited for; neither list is remembered with a time.
  cases on with
  | lessons =>
    simp only [resume, ← takeLessons_undated now answers shared]
    cases takeLessons now answers shared <;> rfl
  | examples lessonsError =>
    simp only [resume]
    cases answers .examples with
    | ok examples => exact congrArg (·, _) (Snapshot.undated_apply ..)
    | error error => rfl

end Catalog

namespace LessonPage

/-- A step that does not tell when it was taken. -/
def Step.undated (step : Step) : Step :=
  { step with shared := step.shared.undated }

/-- A lesson is shown in the same way at any time. -/
theorem finishLoad_undated (now : Timestamp) (page : LessonPage) (shared : Snapshot)
    (ticket : Ticket) (lesson : Lesson) (model : Option Model) :
    (finishLoad now page shared ticket lesson model).undated =
      finishLoad .untold page shared.undated ticket lesson model := by
  -- The time would go to the history, and an undated one has none.
  unfold finishLoad
  split
  · simp [Step.undated]
  · rfl

/-- A load is given up without a look at the history. -/
theorem failLoad_undated (page : LessonPage) (shared : Snapshot) (ticket : Ticket)
    (cause : BackendError) (redirect : Option Route) :
    (failLoad page shared ticket cause redirect).undated =
      failLoad page shared.undated ticket cause redirect := by
  -- Late or not, nothing is shared.
  unfold failLoad
  split <;> rfl

/-- Another lesson is looked for without a look at the history. -/
theorem seekRedirect_undated (page : LessonPage) (shared : Snapshot) (ticket : Ticket)
    (id : Lesson.Id) (cause : BackendError) :
    (seekRedirect page shared ticket id cause).undated =
      seekRedirect page shared.undated ticket id cause := by
  -- The lessons are looked at, and they tell no times.
  unfold seekRedirect
  split
  · exact failLoad_undated ..
  · rw [show shared.undated.lessons = shared.lessons from rfl]
    split
    · rfl
    · exact failLoad_undated ..

/-- Running the selector starts without a look at the history. -/
theorem startRun_undated (page : LessonPage) (shared : Snapshot) :
    (startRun page shared).undated = startRun page shared.undated := by
  -- What guards a run is the model and the selector of the page.
  unfold startRun
  split
  · rfl
  · dsimp only
    split <;> rfl

/-- A call starts in the same way at any time. -/
theorem start_undated (now : Timestamp) (page : LessonPage) (shared : Snapshot) (call : Call) :
    (page.start now shared call).undated = page.start .untold shared.undated call := by
  -- Of what is shared only the lessons are looked at.
  cases call with
  | resolveRoute requested =>
    cases requested with
    | some id => rfl
    | none =>
      simp only [start, show shared.undated.lessons = shared.lessons from rfl]
      split <;> rfl
  | load id => rfl
  | run => exact startRun_undated ..
  | press key =>
    simp only [start]
    split
    · exact startRun_undated ..
    · rfl
    · rfl

/-- A call goes on in the same way at any time. -/
theorem resume_undated (now : Timestamp) (answers : Answers) (page : LessonPage)
    (shared : Snapshot) (on : Waiting) :
    (page.resume now answers shared on).undated =
      page.resume .untold answers shared.undated on := by
  -- Beside the lessons, what is shared is handed through to what the page does at the end.
  cases on with
  | route =>
    simp only [resume, ← Catalog.takeLessons_undated now answers shared]
    cases Catalog.takeLessons now answers shared <;> rfl
  | lesson ticket id =>
    simp only [resume]
    split
    · exact seekRedirect_undated ..
    · split
      · rfl
      · exact finishLoad_undated ..
  | model ticket id lesson source =>
    simp only [resume]
    split
    · exact seekRedirect_undated ..
    · exact finishLoad_undated ..
  | redirect ticket id cause =>
    simp only [resume, ← Catalog.takeLessons_undated now answers shared]
    cases Catalog.takeLessons now answers shared <;> exact failLoad_undated ..
  | selection ticket request =>
    simp only [resume]
    split
    · split
      · simp [Step.undated]
      · rfl
    · rfl

end LessonPage

namespace Playground

/-- A step that does not tell when it was taken. -/
def Step.undated (step : Step) : Step :=
  { step with shared := step.shared.undated }

/-- The page is prepared without a look at the history. -/
theorem goOnPreparing_undated (page : Playground) (shared : Snapshot)
    (progress : Progress Catalog.Waiting Catalog.Status) :
    (goOnPreparing page shared progress).undated = goOnPreparing page shared.undated progress := by
  -- Waiting or ended, nothing is shared.
  cases progress <;> rfl

/-- A call starts without a look at the history. -/
theorem start_undated (page : Playground) (shared : Snapshot) (call : Call) :
    (page.start shared call).undated = page.start shared.undated call := by
  -- Only preparing the page looks at what is shared, at the two lists.
  cases call with
  | prepare => exact goOnPreparing_undated ..
  | compile =>
    simp only [start, startCompile]
    split
    · rfl
    · split <;> rfl
    · rfl
  | run =>
    simp only [start, startRun]
    split
    · rfl
    · split
      · rfl
      · split <;> rfl

/-- A call goes on in the same way at any time. -/
theorem resume_undated (now : Timestamp) (answers : Answers) (page : Playground)
    (shared : Snapshot) (on : Waiting) :
    (page.resume now answers shared on).undated =
      page.resume .untold answers shared.undated on := by
  -- By what the call waits for.
  cases on with
  | catalog on =>
    simp only [resume, ← Catalog.resume_undated now answers shared on]
    exact goOnPreparing_undated ..
  | compile ticket source =>
    -- What is shared is changed, if at all, by changes that come to the same at any time.
    simp only [resume]
    split
    · split
      · simp [Step.undated]
      · rfl
    · rfl
  | selection ticket request =>
    simp only [resume]
    split
    · split
      · simp [Step.undated]
      · rfl
    · rfl

end Playground

namespace Session

/-- A session whose history does not tell the times. -/
def undated (s : Session) : Session :=
  { s with shared := s.shared.undated }

/-- The calls of a session have no times. -/
@[simp] theorem undated_calls (s : Session) : s.undated.calls = s.calls := rfl

/-- The playground has no times. -/
@[simp] theorem undated_playground (s : Session) : s.undated.playground = s.playground := rfl

/-- In sessions that differ at most in their times the same calls wait. -/
theorem waiting?_of_undated {s s' : Session} (alike : s'.undated = s.undated) (number : Nat) :
    s'.waiting? number = s.waiting? number := by
  -- The calls have no times.
  have calls : s'.undated.calls = s.undated.calls := by rw [alike]
  rw [undated_calls, undated_calls] at calls
  simp only [waiting?, calls]

/-- A step of the lesson page does not tell when it was taken unless its history does. -/
theorem withLesson_undated (s : Session) (step : LessonPage.Step) :
    (s.withLesson step).map undated id = s.undated.withLesson step.undated :=
  -- The page itself has no times.
  rfl

/-- A step of the playground does not tell when it was taken unless its history does. -/
theorem withPlayground_undated (s : Session) (step : Playground.Step) :
    (s.withPlayground step).map undated id = s.undated.withPlayground step.undated :=
  -- The page itself has no times.
  rfl

/-- A call takes its first step in the same way at any time. -/
theorem begin_undated (now : Timestamp) (s : Session) (call : Call) :
    (s.begin now call).map undated id = s.undated.begin .untold call := by
  -- By the calls; the pages have said it for themselves.
  cases call with
  | ensureLessons =>
    simp only [begin, show s.undated.shared.lessons = s.shared.lessons from rfl]
    split <;> rfl
  | ensureCatalog => rfl
  | lesson call =>
    simp only [begin, withLesson_undated, LessonPage.start_undated]
    rfl
  | playground call =>
    simp only [begin, withPlayground_undated, Playground.start_undated]
    rfl

/-- A call takes a later step in the same way at any time. -/
theorem goOn_undated (now : Timestamp) (answers : Answers) (s : Session) (on : Waiting) :
    (s.goOn now answers on).map undated id = s.undated.goOn .untold answers on := by
  -- Each page hands the time on to the changes that it makes, and to nothing else.
  cases on with
  | lessons =>
    simp only [goOn, undated, ← Catalog.takeLessons_undated now answers s.shared]
    cases Catalog.takeLessons now answers s.shared <;> rfl
  | catalog on =>
    simp only [goOn, undated, ← Catalog.resume_undated now answers s.shared on]
    rfl
  | lesson on =>
    simp only [goOn, withLesson_undated, LessonPage.resume_undated]
    rfl
  | playground on =>
    simp only [goOn, withPlayground_undated, Playground.resume_undated]
    rfl

/-- An edit does the same at any time. -/
theorem edit_undated (now : Timestamp) (s : Session) (edit : Edit) :
    (s.edit now edit).undated = s.undated.edit .untold edit := by
  -- Only what is shared has times, and a change to it is undated in the store.
  cases edit with
  | share change => simp [Session.edit, undated]
  | setSelection | resetSelection | toggleSolution | clearSelection | form => rfl

namespace Stage

/-- A stage that does not tell when it was, nor when anything was before it. -/
def undated (g : Stage) : Stage :=
  { g with time := .untold, before := g.before.undated }

/-- What comes of a stage does not hang on the time, but for the times that its history tells. -/
theorem undated_after (g : Stage) :
    g.undated.after = g.after.undated ∧ g.undated.call? = g.call? := by
  -- Each kind of event does the same at any time, and which calls wait has nothing to do with it.
  obtain ⟨⟨time, event⟩, before⟩ := g
  cases event with
  | call call =>
    have begun := begin_undated time before call
    simp only [after, call?, undated, aftermath, step, start, ← begun]
    exact ⟨rfl, rfl⟩
  | edit edit => exact ⟨(edit_undated time before edit).symm, rfl⟩
  | arrival number answers =>
    simp only [after, call?, undated, aftermath, step,
      show before.undated.waiting? number = before.waiting? number from rfl]
    cases before.waiting? number with
    | none => exact ⟨rfl, rfl⟩
    | some on =>
      have gone := goOn_undated time answers before on
      simp only [answer, ← gone]
      exact ⟨rfl, rfl⟩

/-- The same event comes to the same in sessions that differ at most in the times of their
histories. -/
theorem after_of_undated {g g' : Stage} (event : g'.event = g.event)
    (before : g'.before.undated = g.before.undated) :
    g'.after.undated = g.after.undated ∧ g'.call? = g.call? := by
  -- Both stages are the same one once the times are left out.
  have same : g'.undated = g.undated := by
    simp only [undated, event, before]
  obtain ⟨after, call⟩ := g.undated_after
  obtain ⟨after', call'⟩ := g'.undated_after
  rw [← after, ← after', ← call, ← call', same]
  exact ⟨rfl, rfl⟩

end Stage

end Session

end SelectorTutorial
