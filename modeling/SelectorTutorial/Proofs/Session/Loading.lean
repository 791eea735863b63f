import SelectorTutorial.Proofs.Session.CurrentResult
import SelectorTutorial.Proofs.Session.Panel

/-! A panel waits for the call that was started last, and for no other. -/

namespace SelectorTutorial

namespace Session

namespace Stage

/-- An errand that comes to an end that counts held a ticket that counts. -/
theorem Ends.isCurrent {g : Stage} {errand : Errand} {number : Nat} {outcome : Outcome}
    (ends : g.Ends errand number outcome) (counted : outcome ≠ .superseded) :
    ∃ ticket, g.before.held? number = some (errand, ticket) ∧
      (g.before.tickets errand.page).isCurrent ticket = true := by
  -- The page handles what arrives, and drops it as late unless its ticket counts.
  obtain ⟨answers, on, ticket, result, arrived, waits, held, taken, came⟩ := ends
  refine ⟨ticket, held?_eq_some_iff.2 ⟨on, waits, held⟩, ?_⟩
  obtain ⟨page, progress, taken', handles, -⟩ := handles_of_arrival arrived waits
  rw [taken] at taken'
  cases taken'
  generalize g.after.tickets page = t at handles
  simp only [Progress.map, held, came] at handles
  cases handles with
  | drops => exact absurd rfl counted
  | counts _ _ own current => rw [own]; exact current

end Stage

/-! ### The newest errand of a kind -/

/-- A call has started an errand, and in the stages since then nothing has overtaken it. -/
def Newest (past : List Stage) (errand : Errand) (number : Nat) (since : List Stage) : Prop :=
  ∃ earlier first, past = earlier ++ first :: since ∧ first.Starts errand number ∧
    ∀ g ∈ since, ¬ g.Overtakes errand

/-- A stage that starts an errand makes it the newest of its kind. -/
theorem newest_of_starts {past : List Stage} {g : Stage} {errand : Errand} {number : Nat}
    (starts : g.Starts errand number) : Newest (past ++ [g]) errand number [] :=
  -- No stage has followed yet that could overtake it.
  ⟨past, g, rfl, starts, by simp⟩

/-- The newest errand of a kind stays so until it is overtaken. -/
theorem Newest.append {past since : List Stage} {g : Stage} {errand : Errand} {number : Nat}
    (newest : Newest past errand number since) (unovertaken : ¬ g.Overtakes errand) :
    Newest (past ++ [g]) errand number (since ++ [g]) := by
  -- The new stage is one more since its start.
  obtain ⟨earlier, first, rfl, starts, idle⟩ := newest
  refine ⟨earlier, first, by simp, starts, fun other member => ?_⟩
  rcases List.mem_append.1 member with before | here
  · exact idle other before
  · rw [List.mem_singleton.1 here]
    exact unovertaken

/-- The newest errand of a kind starts at the last stage, or was the newest one before it. -/
theorem Newest.of_append {past since : List Stage} {g : Stage} {errand : Errand} {number : Nat}
    (newest : Newest (past ++ [g]) errand number since) :
    (since = [] ∧ g.Starts errand number) ∨
      ∃ before, since = before ++ [g] ∧ Newest past errand number before ∧
        ¬ g.Overtakes errand := by
  -- Either no stage has followed its start, or the last one is among those that have.
  obtain ⟨earlier, first, split, starts, idle⟩ := newest
  rcases List.eq_nil_or_concat since with rfl | ⟨before, last, rfl⟩
  · have same := List.append_inj_right' split rfl
    cases same
    exact .inl ⟨rfl, starts⟩
  · rw [List.concat_eq_append] at split idle ⊢
    rw [← List.cons_append, ← List.append_assoc] at split
    obtain ⟨rfl, same⟩ := List.append_inj' split rfl
    cases same
    exact .inr ⟨before, rfl, ⟨earlier, first, rfl, starts, fun other member =>
      idle other (List.mem_append_left _ member)⟩, idle _ (by simp)⟩

/-- Only one call is on the newest errand of a kind. -/
theorem Newest.unique {past since since' : List Stage} {errand : Errand} {number number' : Nat}
    (newest : Newest past errand number since) (newest' : Newest past errand number' since') :
    number = number' := by
  -- Of two different stages that start such an errand the later one overtakes the earlier one.
  obtain ⟨earlier, first, rfl, starts, idle⟩ := newest
  obtain ⟨earlier', first', split, starts', idle'⟩ := newest'
  have overtakes : first.Overtakes errand := (first.overtakes_iff errand).2 (.inl ⟨_, starts⟩)
  have overtakes' : first'.Overtakes errand := (first'.overtakes_iff errand).2 (.inl ⟨_, starts'⟩)
  rcases List.append_eq_append_iff.1 split with ⟨between, -, tail⟩ | ⟨between, -, tail⟩
  · cases between with
    | nil =>
      cases tail
      rw [starts.held.1, starts'.held.1]
    | cons g between =>
      simp only [List.cons_append, List.cons.injEq] at tail
      exact absurd overtakes' (idle first' (by rw [tail.2]; simp))
  · cases between with
    | nil =>
      cases tail
      rw [starts.held.1, starts'.held.1]
    | cons g between =>
      simp only [List.cons_append, List.cons.injEq] at tail
      exact absurd overtakes (idle' first (by rw [tail.2]; simp))

/-- The call that is on the newest errand of a kind is one of the calls that were made. -/
theorem Newest.lt_length {s : Session} {run : List Moment} {since : List Stage} {errand : Errand}
    {number : Nat} (newest : Newest (s.stages run) errand number since) :
    number < (s.after run).calls.length := by
  -- It waited right after it was started, and no call is ever forgotten.
  obtain ⟨earlier, first, split, starts, -⟩ := newest
  obtain ⟨run, m, rest, rfl, rfl, rfl, rfl⟩ := stages_eq_append_cons split
  obtain ⟨on, waits, -⟩ := held?_eq_some_iff.1 starts.held.2
  rw [after_append, after_cons]
  exact Nat.lt_of_lt_of_le (lt_length_of_waiting waits) (calls_length_le_after _ rest)

/-- A call whose ticket counts is on the newest errand of its kind. -/
theorem newest_of_isCurrent {s : Session} (idle : s.calls = []) {run : List Moment}
    (few : callsMade run < UInt64.size) {number : Nat} {errand : Errand} {ticket : Ticket}
    (holds : (s.after run).held? number = some (errand, ticket))
    (current : ((s.after run).tickets errand.page).isCurrent ticket = true) :
    ∃ since, Newest (s.stages run) errand number since := by
  -- The ticket was the newest one when the errand started, and its number is still reached.
  obtain ⟨earlier, first, since, split, starts⟩ := exists_starts idle holds
  refine ⟨since, earlier, first, split, starts, ?_⟩
  have counted := reached_eq_iff idle few split errand
  rw [← counted]
  obtain ⟨run, m, rest, rfl, rfl, rfl, rfl⟩ := stages_eq_append_cons split
  obtain ⟨on, waits, held⟩ := held?_eq_some_iff.1 holds
  rw [after_append, after_cons] at holds waits current ⊢
  have kept := held?_of_after starts.held.2 waits
  rw [holds, Option.some.injEq, Prod.mk.injEq] at kept
  rw [Tickets.isCurrent_iff, kept.2] at current
  exact current

/-- A call that ends an errand in a way that counts was on the newest errand of its kind. -/
theorem newest_of_ends {s : Session} (idle : s.calls = []) {run : List Moment}
    (few : callsMade run < UInt64.size) {past later : List Stage} {last : Stage}
    (split : s.stages run = past ++ last :: later) {errand : Errand} {number : Nat}
    {outcome : Outcome} (ends : last.Ends errand number outcome)
    (counted : outcome ≠ .superseded) : ∃ since, Newest past errand number since := by
  -- It held a ticket that counts, and such a ticket is that of the newest errand.
  obtain ⟨run, m, rest, rfl, rfl, rfl, -⟩ := stages_eq_append_cons split
  rw [callsMade_append] at few
  obtain ⟨ticket, holds, current⟩ := ends.isCurrent counted
  exact newest_of_isCurrent idle (by omega) holds current

/-- A panel that waits does so for the newest errand of its kind, which is in flight with a ticket
that counts. -/
theorem newest_of_loading (shared : Snapshot) {run : List Moment} {errand : Errand}
    (loading : ((({ shared } : Session).after run).panel errand).isLoading = true) :
    ∃ number since, Newest (({ shared } : Session).stages run) errand number since ∧
      (({ shared } : Session).after run).held? number =
        some (errand, ⟨errand.lane, (({ shared } : Session).after run).reached errand⟩) := by
  -- By the last stage: a panel that waits there began to wait, or was left alone.
  induction run using List.reverseRecOn with
  | nil => simp at loading
  | append_singleton run m ih =>
    simp only [stages_append, stages_cons, stages_nil, after_append, after_cons, after_nil]
      at loading ⊢
    generalize here : (({ shared } : Session).after run).stage m = g at loading ⊢
    have before : g.before = ({ shared } : Session).after run := by rw [← here]; rfl
    rw [← before] at ih
    cases g.tells errand with
    | starts starts => exact ⟨_, [], newest_of_starts starts, starts.held.2⟩
    | applied _ panel | failed _ panel | wiped _ _ _ panel | complains _ _ _ panel =>
      rw [panel] at loading
      cases loading
    | keeps _ unended reached panel =>
      rw [panel] at loading
      obtain ⟨number, since, newest, holds⟩ := ih loading
      refine ⟨number, _, newest.append (Stage.not_overtakes_of_reached reached), ?_⟩
      rw [reached]
      rcases Stage.held?_after holds with kept | ⟨outcome, ends⟩
      · exact kept
      · -- Its ticket counts, and so its end would not be a mere dropping of the answer.
        exact absurd rfl ((ends.superseded_iff holds).1 (unended _ _ ends))

/-! ### What a panel shows while a call is in flight -/

/-- What a panel shows that began to wait before some stages: the last complaint in them, if any. -/
def shownSince (errand : Errand) (since : List Stage) : Panel :=
  since.foldl (fun panel g => (g.complaint? errand).elim panel panel.fail) { isLoading := true }

/-- What is shown after one more stage. -/
theorem shownSince_append (errand : Errand) (since : List Stage) (g : Stage) :
    shownSince errand (since ++ [g]) =
      (g.complaint? errand).elim (shownSince errand since) (shownSince errand since).fail := by
  -- The stages are gone through from the first to the last.
  simp only [shownSince, List.foldl_append, List.foldl_cons, List.foldl_nil]

/-- A panel waits on as long as nothing is complained of, and then shows a complaint. -/
theorem shownSince_cases (errand : Errand) (since : List Stage) :
    ((∀ g ∈ since, g.complaint? errand = none) ∧
        shownSince errand since = { isLoading := true }) ∨
      (¬ (∀ g ∈ since, g.complaint? errand = none) ∧
        ∃ message, shownSince errand since = { isLoading := false, error := some message }) := by
  -- A complaint stays until the next one takes its place.
  induction since using List.reverseRecOn with
  | nil => exact .inl ⟨by simp, rfl⟩
  | append_singleton since g ih =>
    rw [shownSince_append]
    cases complained : g.complaint? errand with
    | some message =>
      refine .inr ⟨fun none => ?_, message, rfl⟩
      rw [none g (by simp)] at complained
      cases complained
    | none =>
      rcases ih with ⟨none, waits⟩ | ⟨some, shown⟩
      · refine .inl ⟨fun other member => ?_, waits⟩
        rcases List.mem_append.1 member with before | here
        · exact none other before
        · rw [List.mem_singleton.1 here, complained]
      · exact .inr ⟨fun none => some fun other member => none other (by simp [member]), shown⟩

/-- A panel waits exactly as long as nothing is complained of. -/
theorem shownSince_isLoading_iff (errand : Errand) (since : List Stage) :
    (shownSince errand since).isLoading = true ↔ ∀ g ∈ since, g.complaint? errand = none := by
  -- A complaint ends the waiting for good.
  rcases shownSince_cases errand since with ⟨none, shown⟩ | ⟨some, message, shown⟩
  · simp only [shown, true_iff]
    exact none
  · simp [shown, some]

/-- A panel is clean once its errand was applied, exactly if nothing was complained of meanwhile. -/
theorem shownSince_succeed_iff (errand : Errand) (since : List Stage) :
    (shownSince errand since).succeed = {} ↔ ∀ g ∈ since, g.complaint? errand = none := by
  -- A complaint stays, and without one only the waiting is there to end.
  rcases shownSince_cases errand since with ⟨none, shown⟩ | ⟨some, message, shown⟩
  · simp only [shown, Panel.succeed, true_iff]
    exact none
  · simp [shown, some, Panel.succeed]

/-- On the lesson page nothing is complained of that has to do with a selector. -/
@[simp] theorem shownSince_lessonRun (since : List Stage) :
    shownSince .lessonRun since = { isLoading := true } := by
  -- There is no stage that would complain of it.
  rcases shownSince_cases .lessonRun since with ⟨-, shown⟩ | ⟨some, -⟩
  · exact shown
  · exact absurd (fun g _ => rfl) some

/-- While the newest errand of its kind is in flight, a panel shows the last complaint since it was
started, and waits as long as there is none. -/
theorem panel_eq_shownSince {s : Session} (idle : s.calls = []) {run : List Moment}
    (few : callsMade run < UInt64.size) {errand : Errand} {number : Nat} {since : List Stage}
    (newest : Newest (s.stages run) errand number since) {on : Waiting}
    (waits : (s.after run).waiting? number = some on) :
    (s.after run).panel errand = shownSince errand since := by
  -- By the last stage: it starts the errand, or neither overtakes nor ends it.
  induction run using List.reverseRecOn generalizing since on with
  | nil =>
    obtain ⟨earlier, first, split, -⟩ := newest
    simp at split
  | append_singleton run m ih =>
    have fewer : callsMade run < UInt64.size := by
      rw [callsMade_append] at few
      omega
    have last := stages_append s run [m]
    simp only [stages_cons, stages_nil, after_append, after_cons, after_nil] at last waits ⊢
    rw [last] at newest
    rcases newest.of_append with ⟨rfl, starts⟩ | ⟨before, rfl, earlier, unovertaken⟩
    · exact starts.panel
    · -- The call waits before this stage as well, and so the stages before tell of its panel.
      obtain ⟨old, still⟩ := Stage.waits_before earlier.lt_length waits
      have told := ih fewer earlier still
      rw [shownSince_append, ← told]
      cases ((s.after run).stage m).tells errand with
      | starts starts =>
        exact absurd ((Stage.overtakes_iff _ errand).2 (.inl ⟨_, starts⟩)) unovertaken
      | wiped overtakes => exact absurd overtakes unovertaken
      | applied ends | failed ends =>
        -- What ends here with a ticket that counts is the newest errand, and yet that one waits on.
        obtain ⟨_, newest'⟩ := newest_of_ends idle few last ends nofun
        rw [earlier.unique newest', ends.gone] at waits
        cases waits
      | complains complaint _ _ panel =>
        rw [complaint, panel]
        rfl
      | keeps uncomplained _ _ panel =>
        rw [uncomplained, panel]
        rfl

/-- An errand that was applied leaves on its panel what was complained of since it was started. -/
theorem panel_of_applied {s : Session} (idle : s.calls = []) {run : List Moment}
    (few : callsMade run < UInt64.size) {past later : List Stage} {last : Stage}
    (split : s.stages run = past ++ last :: later) {errand : Errand} {number : Nat}
    (ends : last.Ends errand number .applied) :
    ∃ since, Newest past errand number since ∧
      last.after.panel errand = (shownSince errand since).succeed := by
  -- Up to its end the errand was in flight, and the newest of its kind.
  obtain ⟨since, newest⟩ := newest_of_ends idle few split ends nofun
  obtain ⟨ticket, holds⟩ := ends.held
  obtain ⟨on, waits, -⟩ := held?_eq_some_iff.1 holds
  obtain ⟨run, m, rest, rfl, rfl, rfl, -⟩ := stages_eq_append_cons split
  rw [callsMade_append] at few
  refine ⟨since, newest, ?_⟩
  rw [ends.panel]
  exact congrArg Panel.succeed (panel_eq_shownSince idle (by omega) newest waits)

/-- A panel waits only for the call that started the last errand of its kind, which is in flight and
has a ticket that counts; so with no call in flight no panel waits.  The panel of the selector on
the lesson page also waits as long as there is such a call, and is clean once that was applied.
Only this needs that numbers do not come round again, as they do after 2 ^ 64 calls. -/
theorem panel_waits_for_newest_call (shared : Snapshot) (run : List Moment) :
    (∀ errand, ((({ shared } : Session).after run).panel errand).isLoading = true →
      ∃ earlier first since number ticket,
        ({ shared } : Session).stages run = earlier ++ first :: since ∧
        first.Starts errand number ∧ (∀ g ∈ since, ∀ other, ¬ g.Starts errand other) ∧
        first.after.held? number = some (errand, ticket) ∧
        (({ shared } : Session).after run).held? number = some (errand, ticket) ∧
        ((({ shared } : Session).after run).tickets errand.page).isCurrent ticket = true) ∧
    ((∀ number, (({ shared } : Session).after run).waiting? number = none) →
      ∀ errand, ((({ shared } : Session).after run).panel errand).isLoading = false) ∧
    (callsMade run < UInt64.size →
      (∀ number ticket,
        (({ shared } : Session).after run).held? number = some (.lessonRun, ticket) →
        ((({ shared } : Session).after run).tickets .lesson).isCurrent ticket = true →
          (({ shared } : Session).after run).panel .lessonRun = { isLoading := true }) ∧
      ∀ g ∈ ({ shared } : Session).stages run, ∀ number, g.Ends .lessonRun number .applied →
        g.after.panel .lessonRun = {}) := by
  -- The panel shows what has happened since the newest call, which is traced back to its start.
  refine ⟨fun errand loading => ?_, fun idle errand => ?_, fun few => ⟨?_, ?_⟩⟩
  · obtain ⟨number, since, ⟨earlier, first, split, starts, unovertaken⟩, holds⟩ :=
      newest_of_loading shared loading
    refine ⟨earlier, first, since, number, _, split, starts, fun g member other starts' => ?_, ?_,
      holds, by simp [Tickets.isCurrent_iff, reached]⟩
    · exact unovertaken g member ((g.overtakes_iff errand).2 (.inl ⟨other, starts'⟩))
    · -- From its start on the call has held one ticket only.
      obtain ⟨on, waits, -⟩ := held?_eq_some_iff.1 holds
      obtain ⟨run, m, rest, rfl, rfl, rfl, rfl⟩ := stages_eq_append_cons split
      rw [after_append, after_cons] at waits holds
      rw [after_append, after_cons, ← holds, held?_of_after starts.held.2 waits]
      exact starts.held.2
  · -- What a panel waits for would be in flight.
    by_contra loading
    obtain ⟨number, -, -, holds⟩ := newest_of_loading shared (by simpa using loading)
    obtain ⟨on, waits, -⟩ := held?_eq_some_iff.1 holds
    rw [idle number] at waits
    cases waits
  · intro number ticket holds current
    obtain ⟨since, newest⟩ := newest_of_isCurrent rfl few holds current
    obtain ⟨on, waits, -⟩ := held?_eq_some_iff.1 holds
    rw [panel_eq_shownSince rfl few newest waits, shownSince_lessonRun]
  · intro g member number ends
    obtain ⟨past, later, split⟩ := List.append_of_mem member
    obtain ⟨since, -, panel⟩ := panel_of_applied rfl few split ends
    rw [panel, shownSince_lessonRun]
    rfl

/-- The lesson about the box is loaded, and its selector is run. -/
def runningRun : List Moment := boxRun.take 4

/-- The panel of the selector waits for the one run of it. -/
theorem panel_waits_for_box_run :
    (({} : Session).after runningRun).panel .lessonRun = { isLoading := true } ∧
    ∃ earlier first since number ticket,
      ({} : Session).stages runningRun = earlier ++ first :: since ∧
      first.Starts .lessonRun number ∧ (∀ g ∈ since, ∀ other, ¬ g.Starts .lessonRun other) ∧
      first.after.held? number = some (.lessonRun, ticket) ∧
      (({} : Session).after runningRun).held? number = some (.lessonRun, ticket) ∧
      ((({} : Session).after runningRun).tickets .lesson).isCurrent ticket = true :=
  -- The panel waits, so the theorem names the run that it waits for.
  ⟨rfl, (panel_waits_for_newest_call {} runningRun).1 .lessonRun rfl⟩

/-- A backend with a lesson that needs no model. -/
def bareAnswers : Answers
  | .lesson id => .ok { id, title := "Welcome" }
  | _ => .error (.unreachable "timeout")

/-- A lesson that needs no model is loaded. -/
def bareLoad (s : Session) : List Moment :=
  [⟨⟨8⟩, .call (.lesson (.load ⟨"welcome"⟩))⟩, ⟨⟨9⟩, .arrival s.calls.length bareAnswers⟩]

/-- A load that is applied wipes the panel of the selector, and takes up the number of its lane. -/
theorem Stage.Ends.wipes {g : Stage} {number : Nat} (ends : g.Ends .load number .applied) :
    g.after.panel .lessonRun = {} ∧
      g.after.reached .lessonRun = g.before.reached .lessonRun + 1 := by
  -- The load overtakes the run, so the stage is one that wipes the panel and moves the number.
  have overtakes : g.Overtakes .lessonRun := .inr ⟨number, ends⟩
  obtain ⟨answers, on, ticket, result, arrived, waits, holds, -⟩ := id ends
  constructor
  · cases g.tells .lessonRun with
    | wiped _ _ _ panel => exact panel
    | starts starts => exact absurd starts (not_starts_of_arrival arrived)
    | applied other | failed other => cases other.errand_eq arrived waits holds
    | complains complaint => cases complaint
    | keeps _ _ reached => exact absurd overtakes (not_overtakes_of_reached reached)
  · rcases g.reached_after .lessonRun with ⟨-, up⟩ | ⟨idle, -⟩
    · exact up
    · exact absurd overtakes idle

/-- A lesson that needs no model is shown with the first answer: the panel of the selector is clean,
the number of its lane goes up by one, and the other calls wait on. -/
theorem after_bareLoad (s : Session) :
    (s.after s.bareLoad).panel .lessonRun = {} ∧
      (s.after s.bareLoad).reached .lessonRun = s.reached .lessonRun + 1 ∧
      ∀ number on, s.waiting? number = some on →
        (s.after s.bareLoad).waiting? number = some on := by
  -- The load is under way after the first stage, and it is applied at the second one.
  generalize first : s.stage ⟨⟨8⟩, .call (.lesson (.load ⟨"welcome"⟩))⟩ = g
  have before : g.before = s := by rw [← first]; rfl
  have called : g.event = .call (.lesson (.load ⟨"welcome"⟩)) := by rw [← first]; rfl
  have after : s.after s.bareLoad =
      (g.after.stage ⟨⟨9⟩, .arrival s.calls.length bareAnswers⟩).after := by rw [← first]; rfl
  obtain ⟨begun, taken⟩ := Stage.of_call called
  generalize last : g.after.stage ⟨⟨9⟩, .arrival s.calls.length bareAnswers⟩ = h at after
  have between : h.before = g.after := by rw [← last]; rfl
  have arrived : h.event = .arrival s.calls.length bareAnswers := by rw [← last]; rfl
  have waits : h.before.waiting? s.calls.length =
      some (.lesson (.lesson (s.lesson.tickets.issue .lesson).1 ⟨"welcome"⟩)) := by
    rw [between, ← before, Stage.waiting?_after_of_call? taken]
    rfl
  have current : h.before.lesson.tickets.isCurrent (s.lesson.tickets.issue .lesson).1 = true := by
    rw [between, begun, ← before]
    simp [begin, LessonPage.start, LessonPage.startLoad, withLesson, Tickets.isCurrent,
      Tickets.issue]
  have ends : h.Ends .load s.calls.length .applied := by
    refine ⟨bareAnswers, _, _, .lesson (.loaded .applied none), arrived, waits, rfl, ?_, rfl⟩
    rw [(Stage.of_arrival arrived waits).2]
    simp [goOn, withLesson, LessonPage.resume, bareAnswers, LessonPage.finishLoad, current,
      Progress.map]
  obtain ⟨clean, up⟩ := ends.wipes
  rw [after]
  refine ⟨clean, ?_, fun number on waits' => ?_⟩
  · rw [up, between, begun, ← before]
    rfl
  · -- Neither stage is about a call that was made before.
    have started := lt_length_of_waiting waits'
    rw [Stage.waiting?_after, (Stage.of_arrival arrived waits).2]
    simp only [Nat.ne_of_gt started, if_false, between]
    rw [Stage.waiting?_after, taken]
    simp only [before, Nat.ne_of_gt started, if_false, waits']

/-- Once so many selectors were run that the numbers come round again, a panel is clean although a
run is in flight whose ticket counts. -/
theorem exists_clean_panel_of_current_run : ∃ run number ticket,
    (({} : Session).after run).held? number = some (.lessonRun, ticket) ∧
    ((({} : Session).after run).tickets .lesson).isCurrent ticket = true ∧
    (({} : Session).after run).panel .lessonRun = {} := by
  -- One run waits while so many others start, and a lesson is loaded, that its number comes round.
  have has : (({} : Session).after runningRun).lesson.model =
      some { id := ⟨"box"⟩, meshUrl := "/box.glb" } := rfl
  obtain ⟨-, reached, others⟩ := after_replicate_run ⟨5⟩ (UInt64.size - 1) has (by decide)
  have waits := others 1 (Page.lesson.selecting ⟨.selection, 2⟩ (.of ⟨"box"⟩ "faces" none)) rfl
  generalize runs : List.replicate (UInt64.size - 1) (⟨⟨5⟩, .call (.lesson .run)⟩ : Moment) = rest
    at reached waits
  generalize full : (({} : Session).after runningRun).after rest = s at reached waits
  obtain ⟨clean, up, kept⟩ := after_bareLoad s
  refine ⟨runningRun ++ (rest ++ s.bareLoad), 1, ⟨.selection, 2⟩, ?_, ?_, ?_⟩ <;>
    rw [after_append, after_append, full]
  · rw [held?, kept 1 _ waits]
    rfl
  · rw [Tickets.isCurrent_iff]
    exact (up.trans (congrArg (· + 1) reached)).trans (by decide)
  · exact clean

end Session

end SelectorTutorial
