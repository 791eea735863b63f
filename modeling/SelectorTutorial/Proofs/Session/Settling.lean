import SelectorTutorial.Proofs.Session.KnownLessons
import SelectorTutorial.Proofs.Session.Undated

/-! Once no more calls are made a session settles, because no call waits for ever. -/

namespace SelectorTutorial

/-- How often a call for the lists still waits at most. -/
def Catalog.Waiting.left : Catalog.Waiting → Nat
  | lessons => 2
  | examples _ => 1

/-- How often a call of the lesson page still waits at most. -/
def LessonPage.Waiting.left : LessonPage.Waiting → Nat
  -- A lesson, its model, and the lessons if either is not there.
  | lesson _ _ => 3
  | model _ _ _ _ => 2
  | redirect _ _ _ => 1
  | route => 1
  | selection _ _ => 1

/-- How often a call of the playground still waits at most. -/
def Playground.Waiting.left : Playground.Waiting → Nat
  | catalog on => on.left
  | compile _ _ => 1
  | selection _ _ => 1

/-- The lists are fetched one after the other, and each of them once. -/
theorem Catalog.left_lt_of_resume {now : Timestamp} {answers : Answers} {shared : Snapshot}
    {on next : Waiting} (waits : (resume now answers shared on).2 = .waiting next) :
    next.left < on.left := by
  -- After the lessons only the examples are left.
  obtain ⟨rfl, lessonsError, rfl⟩ := resume_waiting waits
  exact Nat.lt_succ_self 1

/-- A load that meets an error waits for the lessons at most, and for nothing after them. -/
theorem LessonPage.left_lt_of_seekRedirect {page : LessonPage} {shared : Snapshot} {ticket : Ticket}
    {id : Lesson.Id} {cause : BackendError} {next : Waiting}
    (waits : (seekRedirect page shared ticket id cause).progress = .waiting next) :
    next.left < 2 := by
  -- To give the load up ends it.
  have ended (redirect : Option Route)
      (waits : (failLoad page shared ticket cause redirect).progress = .waiting next) : False := by
    obtain ⟨result, finished⟩ := failLoad_finished page shared ticket cause redirect
    rw [finished] at waits
    cases waits
  unfold seekRedirect at waits
  split at waits
  · exact (ended _ waits).elim
  · split at waits
    · cases waits
      exact Nat.lt_succ_self 1
    · exact (ended _ waits).elim

/-- A load waits for a lesson, then for its model and last for the lessons. -/
theorem LessonPage.left_lt_of_resume {now : Timestamp} {answers : Answers} {page : LessonPage}
    {shared : Snapshot} {on next : Waiting}
    (waits : (page.resume now answers shared on).progress = .waiting next) :
    next.left < on.left := by
  -- To show the lesson ends the load.
  have shown {ticket : Ticket} {lesson : Lesson} {model : Option Model}
      (waits : (finishLoad now page shared ticket lesson model).progress = .waiting next) :
      False := by
    obtain ⟨result, finished⟩ := finishLoad_finished now page shared ticket lesson model
    rw [finished] at waits
    cases waits
  cases on with
  | route =>
    simp only [resume] at waits
    split at waits <;> cases waits
  | lesson ticket id =>
    simp only [resume] at waits
    split at waits
    · exact Nat.lt_succ_of_lt (left_lt_of_seekRedirect waits)
    · split at waits
      · cases waits
        simp [Waiting.left]
      · exact (shown waits).elim
  | model ticket id lesson source =>
    simp only [resume] at waits
    split at waits
    · exact left_lt_of_seekRedirect waits
    · exact (shown waits).elim
  | redirect ticket id cause =>
    have ended (shared : Snapshot) (redirect : Option Route) :=
      failLoad_finished page shared ticket cause redirect
    simp only [resume] at waits
    split at waits
    · next fetched _ =>
      obtain ⟨result, finished⟩ := ended fetched (redirectFrom id fetched)
      rw [finished] at waits
      cases waits
    · obtain ⟨result, finished⟩ := ended shared none
      rw [finished] at waits
      cases waits
  | selection ticket request =>
    simp only [resume] at waits
    split at waits
    · split at waits <;> cases waits
    · cases waits

/-- Only a call for the lists waits more than once on the playground. -/
theorem Playground.left_lt_of_resume {now : Timestamp} {answers : Answers} {page : Playground}
    {shared : Snapshot} {on next : Waiting}
    (waits : (page.resume now answers shared on).progress = .waiting next) :
    next.left < on.left := by
  -- By the step that the call takes; one of them waits again.
  have goesOn := resume_goesOn now answers page shared on
  generalize made : page.resume now answers shared on = step at goesOn waits
  cases goesOn with
  | asked =>
    -- The page waits as often as the lists that it is prepared with.
    obtain ⟨list, resumed, rfl⟩ := goOnPreparing_waiting (made ▸ waits)
    exact Catalog.left_lt_of_resume resumed
  | prepared | applied | failed | selected | refused | late => cases waits

namespace Session

/-- How often a call still waits at most. -/
def Waiting.left : Waiting → Nat
  | lessons => 1
  | catalog on => on.left
  | lesson on => on.left
  | playground on => on.left

/-- A call that waits does so at least once. -/
theorem Waiting.left_pos (on : Waiting) : 0 < on.left := by
  -- By what is waited for; each has at least its own answer to come.
  cases on with
  | lessons => decide
  | catalog on => cases on <;> simp [left, Catalog.Waiting.left]
  | lesson on => cases on <;> simp [left, LessonPage.Waiting.left]
  | playground on =>
    cases on with
    | catalog on => cases on <;> simp [left, Playground.Waiting.left, Catalog.Waiting.left]
    | compile | selection => simp [left, Playground.Waiting.left]

/-- No call waits more often than is allowed for. -/
theorem Waiting.left_le_mostWaits (on : Waiting) : on.left ≤ mostWaits := by
  -- A load waits longest: for a lesson, for its model and for the lessons.
  have lists (on : Catalog.Waiting) : on.left ≤ mostWaits := by
    cases on <;> simp [Catalog.Waiting.left, mostWaits]
  cases on with
  | lessons => decide
  | catalog on => exact lists on
  | lesson on => cases on <;> simp [left, LessonPage.Waiting.left, mostWaits]
  | playground on =>
    cases on with
    | catalog on => exact lists on
    | compile | selection => simp [left, Playground.Waiting.left, mostWaits]

/-- After each answer a call waits less often. -/
theorem left_lt_of_goOn {now : Timestamp} {answers : Answers} {s : Session} {on next : Waiting}
    (waits : (s.goOn now answers on).2 = .waiting next) : next.left < on.left := by
  -- Each of the pages and the lists counts its own answers.
  cases on with
  | lessons =>
    simp only [goOn] at waits
    split at waits <;> cases waits
  | catalog on =>
    obtain ⟨list, resumed, rfl⟩ := Progress.map_eq_waiting.1 waits
    exact Catalog.left_lt_of_resume resumed
  | lesson on =>
    obtain ⟨mine, resumed, rfl⟩ := Progress.map_eq_waiting.1 waits
    exact LessonPage.left_lt_of_resume resumed
  | playground on =>
    obtain ⟨mine, resumed, rfl⟩ := Progress.map_eq_waiting.1 waits
    exact Playground.left_lt_of_resume resumed

/-- How many answers can still arrive that are waited for, at most. -/
def waitsLeft (s : Session) : Nat :=
  s.calls.foldr (fun on left => on.elim 0 Waiting.left + left) 0

/-- Each answer that is waited for is one less. -/
theorem Stage.waitsLeft_after_lt {g : Stage} {number : Nat} {answers : Answers} {on : Waiting}
    (arrived : g.event = .arrival number answers) (waits : g.before.waiting? number = some on) :
    g.after.waitsLeft < g.before.waitsLeft := by
  have after := (of_arrival arrived waits).1
  -- The call that is answered waits less often, or not at all any more.
  have fewer : (pending (g.before.goOn g.time answers on).2).elim 0 Waiting.left < on.left := by
    cases gone : (g.before.goOn g.time answers on).2 with
    | finished result => exact on.left_pos
    | waiting next => exact left_lt_of_goOn gone
  obtain ⟨front, back, split, -, set⟩ :=
    exists_split_of_waits waits (pending (g.before.goOn g.time answers on).2)
  rw [waitsLeft, waitsLeft, after, set, split]
  simp only [List.foldr_append, List.foldr_cons, Option.elim_some]
  -- What the calls before it come to is added on both sides.
  clear split set
  induction front with
  | nil => exact Nat.add_lt_add_right fewer _
  | cons call front ih => exact Nat.add_lt_add_left ih _

/-- The backend gives the same answers all along, until nothing waits any more. -/
structure Settles (s : Session) (answers : Answers) (replies : List Moment) : Prop where
  /-- Only these answers arrive. -/
  only : ∀ m ∈ replies, ∃ number, m.event = .arrival number answers
  /-- Nothing waits at the end. -/
  idle : ∀ number, (s.after replies).waiting? number = none

/-- Every session can be settled, but for calls that are spared. -/
theorem exists_replies (s : Session) (answers : Answers) (spared : Nat → Prop) :
    ∃ replies : List Moment,
      (∀ m ∈ replies, ∃ number, ¬ spared number ∧ m.event = .arrival number answers) ∧
      ∀ number, ¬ spared number → (s.after replies).waiting? number = none := by
  -- As long as a call waits that is not spared it is answered.
  induction left : s.waitsLeft using Nat.strongRecOn generalizing s with
  | ind left ih =>
    subst left
    by_cases idle : ∀ number, ¬ spared number → s.waiting? number = none
    · exact ⟨[], by simp, idle⟩
    · simp only [not_forall, exists_prop] at idle
      obtain ⟨number, unspared, waits⟩ := idle
      obtain ⟨on, waits⟩ := Option.ne_none_iff_exists'.1 waits
      obtain ⟨replies, only, settled⟩ := ih _ (Stage.waitsLeft_after_lt
        (g := s.stage ⟨.untold, .arrival number answers⟩) rfl waits) _ rfl
      refine ⟨⟨.untold, .arrival number answers⟩ :: replies, ?_, settled⟩
      exact List.forall_mem_cons.2 ⟨⟨number, unspared, rfl⟩, only⟩

end Session

end SelectorTutorial
