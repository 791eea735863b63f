import SelectorTutorial.Backend.Api
import SelectorTutorial.Json.Writer
import SelectorTutorial.Proofs.Session.CurrentResult

/-! The history tells which runs of a selector were applied, the newest first. -/

namespace SelectorTutorial

/-- A run never stands for a load or a compilation. -/
theorem Page.swap_ne_run (page other : Page) : page.swap ≠ other.run := by
  -- There are four errands, and these are different ones.
  cases page <;> cases other <;> nofun

/-- A result that comes from a backend is named after the selector that was sent, whatever the reply
calls it. -/
theorem Api.expression_of_answers {api : Api} {reply : Reply} {request : Selection.Request}
    {result : Selection.Result} (answered : api.answers reply (.select request) = .ok result) :
    result.expression = request.selection := by
  simp only [answers, read] at answered
  -- Only a reply of success with a body that can be read holds a result.
  split at answered
  · cases answered
  · split at answered
    · split at answered
      · cases answered
      · next bytes _ =>
        split at answered
        · next found decoded =>
          cases answered
          obtain ⟨parsed, -, rfl⟩ := Option.map_eq_some_iff.1 decoded
          rfl
        · cases answered
    · cases answered

namespace Session

/-- What arrives is a reply over HTTP, or word that a request could not be sent. -/
def Event.IsOverHttp (event : Event) : Prop :=
  ∀ number answers, event = .arrival number answers →
    (∃ api reply, answers = Api.answers api reply) ∨ ∃ error, answers = .failure error

/-- Over HTTP every result is named after the selector that was sent. -/
theorem Event.IsOverHttp.expression_eq {event : Event} (http : event.IsOverHttp) {number : Nat}
    {answers : Answers} (arrived : event = .arrival number answers) {request : Selection.Request}
    {result : Selection.Result} (answered : answers (.select request) = .ok result) :
    result.expression = request.selection := by
  rcases http number answers arrived with ⟨api, reply, rfl⟩ | ⟨error, rfl⟩
  · exact Api.expression_of_answers answered
  · -- A request that was not sent has no result.
    cases answered

namespace Stage

/-- The run of a selector that is applied at a stage, with what is to be remembered of it. -/
def appliedRun? (g : Stage) : Option (Nat × HistoryEntry) :=
  match g.event, g.call? with
  | .arrival number answers, some (_, .finished result) =>
    match (g.before.waiting? number).map Waiting.call, result.outcome? with
    | some (.select request), some .applied =>
      match answers (.select request) with
      | .ok answer => some (number, ⟨g.time, answer⟩)
      | .error _ => none
    | _, _ => none
  | _, _ => none

/-- A run that is applied is one that ends so with the answer to its request. -/
theorem appliedRun?_eq_some_iff {g : Stage} {number : Nat} {entry : HistoryEntry} :
    g.appliedRun? = some (number, entry) ↔ ∃ page answers ticket request,
      g.Ends (Page.run page) number .applied ∧ g.event = .arrival number answers ∧
      g.before.waiting? number = some (page.selecting ticket request) ∧
      answers (.select request) = .ok entry.result ∧ entry.time = g.time := by
  -- The answer, the request and the outcome are looked up one after another.
  constructor
  · intro applied
    unfold appliedRun? at applied
    split at applied
    · next answers taken result arrived finished =>
      split at applied
      · next request asked came =>
        split at applied
        · next answer answered =>
          cases applied
          obtain ⟨on, waits, asks⟩ := Option.map_eq_some_iff.1 asked
          obtain ⟨page, ticket, rfl⟩ := Waiting.eq_selecting asks
          -- The stage is about the call that is answered.
          have same : taken = number := by
            rw [(of_arrival arrived waits).2] at finished
            exact (Prod.mk.inj (Option.some.inj finished)).1.symm
          subst same
          exact ⟨page, answers, ticket, request, ⟨answers, _, ticket, result, arrived, waits,
            page.selecting_held? ticket request, finished, came⟩, arrived, waits, answered, rfl⟩
        · cases applied
      · cases applied
    · cases applied
  · rintro ⟨page, answers, ticket, request, ends, arrived, waits, answered, time⟩
    obtain ⟨_, _, _, result, arrived', -, -, taken, came⟩ := ends
    rw [arrived] at arrived'
    cases arrived'
    -- Whichever page it comes from, the request is there to be read.
    have asks : (page.selecting ticket request).call = .select request := by cases page <;> rfl
    simp only [appliedRun?, arrived, taken, waits, Option.map_some, asks, came, answered, ← time]

/-- All that a stage can do to the history. -/
inductive Remembers (g : Stage) : Prop
  /-- A run of a selector is applied, and its result is remembered. -/
  | entry {number entry} (applied : g.appliedRun? = some (number, entry))
      (history : g.after.shared.history =
        entry :: g.before.shared.history.take (Snapshot.historyLimit - 1))
  /-- No run is applied, and nothing new is remembered. -/
  | nothing (unended : ∀ page number, ¬ g.Ends (Page.run page) number .applied)
      (history : g.after.shared.history = g.before.shared.history)

/-- Where nothing is applied that a call was to do, nothing new is remembered. -/
theorem remembers_of_unapplied {g : Stage} {number : Nat} {progress : Progress Waiting Result}
    (taken : g.call? = some (number, progress))
    (unapplied : ∀ result, progress = .finished result → result.outcome? ≠ some .applied)
    (history : g.after.shared.history = g.before.shared.history) : g.Remembers :=
  -- A run that ends as applied would be such a call.
  .nothing (fun page => not_ends_of_unapplied taken unapplied page.run) history

/-- A later step of a call of the lesson page is remembered if it applies a run. -/
theorem remembers_of_lesson {g : Stage} {number : Nat} {answers : Answers}
    {on : LessonPage.Waiting} (arrived : g.event = .arrival number answers)
    (waits : g.before.waiting? number = some (.lesson on)) : g.Remembers := by
  -- By the step that the call takes; one of them adds to the history.
  obtain ⟨step, goesOn, takes⟩ := goesOn_of_lesson arrived waits
  cases goesOn with
  | @selected ticket request result current answered =>
    have ends : g.Ends Page.lesson.run number .applied :=
      ⟨answers, _, ticket, _, arrived, waits, rfl, takes.taken, rfl⟩
    have applied : g.appliedRun? = some (number, ⟨g.time, result⟩) :=
      appliedRun?_eq_some_iff.2
        ⟨.lesson, answers, ticket, request, ends, arrived, waits, answered, rfl⟩
    exact .entry applied (by rw [takes.shared]; rfl)
  | applied obtained =>
    -- What is applied here is a load.
    refine .nothing (fun page number ends => ?_) (by rw [takes.shared]; rfl)
    exact Page.swap_ne_run .lesson page (ends.errand_eq arrived waits obtained.holds)
  | found =>
    refine remembers_of_unapplied takes.taken (fun result finished came => ?_)
      (by rw [takes.shared]; rfl)
    cases finished
    cases came
  | lost | fetched | seeks | refused =>
    refine remembers_of_unapplied takes.taken (fun result finished came => ?_)
      (by rw [takes.shared])
    cases finished <;> cases came
  | failed _ _ lists =>
    refine remembers_of_unapplied takes.taken (fun result finished came => ?_)
      (by rw [takes.shared]; exact lists.sameButLessons.sameButLists.history_eq)
    cases finished
    cases came
  | late _ _ lists dropped =>
    refine remembers_of_unapplied takes.taken (fun result finished came => ?_)
      (by rw [takes.shared]; exact lists.sameButLessons.sameButLists.history_eq)
    cases finished
    rw [Result.outcome?, dropped] at came
    cases came

/-- A later step of a call of the playground is remembered if it applies a run. -/
theorem remembers_of_playground {g : Stage} {number : Nat} {answers : Answers}
    {on : Playground.Waiting} (arrived : g.event = .arrival number answers)
    (waits : g.before.waiting? number = some (.playground on)) : g.Remembers := by
  -- As on the lesson page, with a compilation in the place of a load.
  obtain ⟨step, goesOn, takes⟩ := goesOn_of_playground arrived waits
  cases goesOn with
  | @selected ticket request result current answered =>
    have ends : g.Ends Page.playground.run number .applied :=
      ⟨answers, _, ticket, _, arrived, waits, rfl, takes.taken, rfl⟩
    have applied : g.appliedRun? = some (number, ⟨g.time, result⟩) := appliedRun?_eq_some_iff.2
      ⟨.playground, answers, ticket, request, ends, arrived, waits, answered, rfl⟩
    exact .entry applied (by rw [takes.shared]; rfl)
  | applied =>
    refine .nothing (fun page number ends => ?_) (by rw [takes.shared]; rfl)
    exact Page.swap_ne_run .playground page (ends.errand_eq arrived waits rfl)
  | asked lists | prepared lists =>
    refine remembers_of_unapplied takes.taken (fun result finished came => ?_)
      (by rw [takes.shared]; exact lists.history_eq)
    cases finished <;> cases came
  | failed | refused | late =>
    refine remembers_of_unapplied takes.taken (fun result finished came => ?_)
      (by rw [takes.shared])
    cases finished
    cases came

/-- No edit puts anything into the history but one that meddles with the result. -/
theorem history_of_edit {g : Stage} {edit : Edit} (unmeddled : g.event.meddles = false)
    (edited : g.event = .edit edit) : g.after.shared.history = g.before.shared.history := by
  -- The only edits that touch what is shared are those that meddle, and clearing the result, which
  -- keeps its history.
  rw [(of_edit edited).1]
  cases edit with
  | share change =>
    cases change with
    | model | result => simp [edited, Event.meddles] at unmeddled
    | lessons | examples | mode => rfl
  | setSelection | resetSelection | toggleSolution | clearSelection | form => rfl

/-- Every stage at which nobody meddles does one of these things. -/
theorem remembers {g : Stage} (unmeddled : g.event.meddles = false) : g.Remembers := by
  -- By what may happen at a stage: only an answer to a page can apply a run.
  cases g.course with
  | lists fetches => exact .nothing (fun _ _ => fetches.not_ends) fetches.shared.history_eq
  | edits edited =>
    exact .nothing (fun _ _ => not_ends_of_edit edited) (history_of_edit unmeddled edited)
  | lessonBegins called begins takes =>
    refine .nothing (fun _ _ => not_ends_of_call called) ?_
    rw [takes.shared]
    cases begins <;> rfl
  | playgroundBegins called begins takes =>
    refine .nothing (fun _ _ => not_ends_of_call called) ?_
    rw [takes.shared]
    cases begins <;> rfl
  | lessonGoesOn arrived waits => exact remembers_of_lesson arrived waits
  | playgroundGoesOn arrived waits => exact remembers_of_playground arrived waits

/-- Where no run is applied, there is nothing to remember. -/
theorem appliedRun?_eq_none {g : Stage}
    (unended : ∀ page number, ¬ g.Ends (Page.run page) number .applied) : g.appliedRun? = none := by
  -- A run that is found there has ended there.
  cases applied : g.appliedRun? with
  | none => rfl
  | some run =>
    obtain ⟨page, _, _, _, ends, -⟩ := appliedRun?_eq_some_iff.1 applied
    exact absurd ends (unended page _)

/-- A run that is applied is finished there. -/
theorem finished_of_appliedRun? {g : Stage} {number : Nat} {entry : HistoryEntry}
    (applied : g.appliedRun? = some (number, entry)) :
    ∃ result, g.call? = some (number, .finished result) := by
  -- A run that is applied has ended, and so its call has.
  obtain ⟨_, _, _, _, ends, -⟩ := appliedRun?_eq_some_iff.1 applied
  obtain ⟨_, _, _, result, -, -, -, taken, -⟩ := ends
  exact ⟨result, taken⟩

/-- A run that ends as applied is one of those that are remembered. -/
theorem Ends.appliedRun? {g : Stage} {page : Page} {number : Nat}
    (ends : g.Ends page.run number .applied) (unmeddled : g.event.meddles = false) :
    ∃ entry, g.appliedRun? = some (number, entry) := by
  cases remembers unmeddled with
  | @entry other entry applied =>
    -- A stage is about one call only.
    obtain ⟨result, finished⟩ := finished_of_appliedRun? applied
    obtain ⟨_, _, _, _, -, -, -, taken, -⟩ := ends
    rw [finished] at taken
    cases taken
    exact ⟨entry, applied⟩
  | nothing unended => exact absurd ends (unended page number)

end Stage

/-- The runs of a selector that are applied in a run, with what is to be remembered of each. -/
def appliedRuns (s : Session) (run : List Moment) : List (Nat × HistoryEntry) :=
  (s.stages run).filterMap Stage.appliedRun?

/-- One more stage adds at most one run. -/
theorem appliedRuns_append (s : Session) (run : List Moment) (m : Moment) :
    s.appliedRuns (run ++ [m]) =
      s.appliedRuns run ++ ((s.after run).stage m).appliedRun?.toList := by
  -- The runs are found stage by stage.
  simp only [appliedRuns, stages_append, stages_cons, stages_nil, List.filterMap_append]
  cases applied : ((s.after run).stage m).appliedRun? <;> simp [applied]

/-- The history has the runs that were applied last, and as many of them as are kept. -/
theorem history_eq {s : Session} (fresh : s.shared.history = []) {run : List Moment}
    (unmeddled : ∀ m ∈ run, m.event.meddles = false) :
    (s.after run).shared.history =
      ((s.appliedRuns run).map Prod.snd).reverse.take Snapshot.historyLimit := by
  -- By the last stage: it puts one entry in front, or it leaves the history alone.
  induction run using List.reverseRecOn with
  | nil => simp [appliedRuns, fresh]
  | append_singleton run m ih =>
    have before : ((s.after run).stage m).before.shared.history =
        ((s.appliedRuns run).map Prod.snd).reverse.take Snapshot.historyLimit :=
      ih fun m member => unmeddled m (List.mem_append_left _ member)
    have last : ((s.after run).stage m).event.meddles = false := unmeddled m (by simp)
    rw [after_append, after_cons, after_nil, appliedRuns_append]
    cases Stage.remembers last with
    | entry applied history =>
      -- The oldest entry drops out if there are as many as are kept.
      rw [history, before, applied]
      simp [List.take_take, Snapshot.historyLimit]
    | nothing unended history =>
      rw [history, before, Stage.appliedRun?_eq_none unended]
      simp

/-- No call is finished at two stages. -/
theorem pairwise_finished (s : Session) (run : List Moment) :
    (s.stages run).Pairwise fun g later => ∀ number result,
      g.call? = some (number, .finished result) → ¬ later.IsAbout number := by
  -- What the first stage finishes, none of the others is about.
  induction run generalizing s with
  | nil => exact .nil
  | cons m run ih =>
    exact .cons (fun later member number result finished =>
      not_isAbout_of_finished finished member) (ih _)

/-- No call is applied twice. -/
theorem appliedRuns_nodup (s : Session) (run : List Moment) :
    ((s.appliedRuns run).map Prod.fst).Nodup := by
  -- A call that was applied is finished, and no later stage is about it.
  rw [List.Nodup, List.pairwise_map, appliedRuns, List.pairwise_filterMap]
  refine (s.pairwise_finished run).imp fun {g later} apart applied here applied' there same => ?_
  obtain ⟨result, finished⟩ := Stage.finished_of_appliedRun? here
  obtain ⟨result', finished'⟩ := Stage.finished_of_appliedRun? there
  exact apart _ _ finished ⟨_, by rw [same]; exact finished'⟩

/-- A call that is finished at some stage is among the runs that were applied exactly if it ends
such a run there. -/
theorem mem_appliedRuns_iff {s : Session} {run : List Moment}
    (unmeddled : ∀ m ∈ run, m.event.meddles = false) {g : Stage} (member : g ∈ s.stages run)
    {number : Nat} {result : Result} (finished : g.call? = some (number, .finished result)) :
    number ∈ (s.appliedRuns run).map Prod.fst ↔ ∃ page, g.Ends (Page.run page) number .applied := by
  -- A run is remembered at the stage that ends it, and no call ends twice.
  constructor
  · intro applied
    obtain ⟨⟨_, entry⟩, remembered, rfl⟩ := List.mem_map.1 applied
    obtain ⟨other, member', here⟩ := List.mem_filterMap.1 remembered
    obtain ⟨result', finished'⟩ := Stage.finished_of_appliedRun? here
    -- Of two stages one would come before the other, but no call is finished at both.
    obtain ⟨earlier, later, split⟩ := List.append_of_mem member'
    have apart := s.pairwise_finished run
    rw [split] at apart member
    obtain ⟨-, after, before⟩ := List.pairwise_append.1 apart
    rcases List.mem_append.1 member with past | next
    · exact absurd ⟨_, finished'⟩ (before g past other (by simp) _ _ finished)
    · rcases List.mem_cons.1 next with rfl | future
      · obtain ⟨page, _, _, _, ends, -⟩ := Stage.appliedRun?_eq_some_iff.1 here
        exact ⟨page, ends⟩
      · exact absurd ⟨_, finished⟩ ((List.pairwise_cons.1 after).1 g future _ _ finished')
  · rintro ⟨page, ends⟩
    obtain ⟨entry, applied⟩ := ends.appliedRun? (unmeddled _ (toMoment_mem member))
    exact List.mem_map.2 ⟨_, List.mem_filterMap.2 ⟨g, member, applied⟩, rfl⟩

/-- What is remembered of a run that was applied is the answer to a request about the model and the
selector of its page, as they were when the run was started. -/
theorem of_mem_appliedRuns {s : Session} (idle : s.calls = []) {run : List Moment} {number : Nat}
    {entry : HistoryEntry} (applied : (number, entry) ∈ s.appliedRuns run) :
    ∃ page earlier first between last later answers model filters,
      s.stages run = earlier ++ first :: between ++ last :: later ∧
      first.Starts (Page.run page) number ∧ last.Ends page.run number .applied ∧
      first.before.model? page = some model ∧ Text.trim (first.before.selector page) ≠ "" ∧
      last.event = .arrival number answers ∧
      answers (.select (.of model.id (Text.trim (first.before.selector page)) filters)) =
        .ok entry.result ∧ entry.time = last.time := by
  -- From the stage that ends the run we go back to the one that started it.
  obtain ⟨last, member, here⟩ := List.mem_filterMap.1 applied
  obtain ⟨page, answers, ticket, request, ends, arrived, waits, answered, time⟩ :=
    Stage.appliedRun?_eq_some_iff.1 here
  -- The request was sent at a stage before, and that stage started the run.
  obtain ⟨past, later, split⟩ := List.append_of_mem member
  obtain ⟨run, m, rest, rfl, rfl, rfl, -⟩ := stages_eq_append_cons split
  obtain ⟨earlier, first, between, before, sent⟩ := exists_asks idle waits
  obtain ⟨starts, model, filters, shows, typed, rfl⟩ := Stage.sends sent
  exact ⟨page, earlier, first, between, _, later, answers, model, filters, by rw [split, before],
    starts, ends, shows, typed, arrived, answered, time⟩

/-- The history holds the results of the runs of a selector that were applied, on whichever page,
the newest first and no more of them than are kept.  Each call is among those runs at most once, and
one that is finished exactly if it ends a run as applied; so nothing else is ever remembered.  What
is remembered is the answer of the backend about the model that the page showed when the run was
started, and over HTTP it is named after the selector that stood in the editor then, without the
blanks around it; so no other text ever stands in for it. -/
theorem history_is_of_applied_runs {run : List Moment}
    (unmeddled : ∀ m ∈ run, m.event.meddles = false) (http : ∀ m ∈ run, m.event.IsOverHttp) :
    (({} : Session).after run).shared.history =
      ((({} : Session).appliedRuns run).map Prod.snd).reverse.take Snapshot.historyLimit ∧
    ((({} : Session).appliedRuns run).map Prod.fst).Nodup ∧
    (∀ g ∈ ({} : Session).stages run, ∀ number result,
      g.call? = some (number, .finished result) →
        (number ∈ (({} : Session).appliedRuns run).map Prod.fst ↔
          ∃ page, g.Ends (Page.run page) number .applied)) ∧
    ∀ number entry, (number, entry) ∈ ({} : Session).appliedRuns run →
      ∃ page earlier first between last later answers model filters,
        ({} : Session).stages run = earlier ++ first :: between ++ last :: later ∧
        first.Starts (Page.run page) number ∧ last.Ends page.run number .applied ∧
        first.before.model? page = some model ∧ last.event = .arrival number answers ∧
        answers (.select (.of model.id (Text.trim (first.before.selector page)) filters)) =
          .ok entry.result ∧ entry.time = last.time ∧
        entry.result.expression = Text.trim (first.before.selector page) ∧
        entry.result.expression ≠ "" ∧
        ∀ editor, entry.expressionOr editor = entry.result.expression := by
  -- The history and the runs are two accounts of the same stages.  What is remembered at one of
  -- them goes back to the start of its run, where the selector was read.
  refine ⟨history_eq rfl unmeddled, appliedRuns_nodup _ run,
    fun g member number result finished => mem_appliedRuns_iff unmeddled member finished, ?_⟩
  intro number entry applied
  obtain ⟨page, earlier, first, between, last, later, answers, model, filters, split, starts, ends,
    shows, typed, arrived, answered, time⟩ := of_mem_appliedRuns rfl applied
  have named : entry.result.expression = Text.trim (first.before.selector page) :=
    (http _ (toMoment_mem (s := {}) (by rw [split]; simp))).expression_eq arrived answered
  have given : entry.result.expression ≠ "" := by
    rw [named]
    exact typed
  exact ⟨page, earlier, first, between, last, later, answers, model, filters, split, starts, ends,
    shows, arrived, answered, time, named, given, fun editor => if_neg given⟩

/-- A backend. -/
def boxApi : Api where
  base := "http://backend.test/api"
  url := { scheme := "http", host := some (.name "backend.test"), path := .segments ["api", ""] }
  url_eq := by decide +kernel

/-- What arrives when that backend sends some value. -/
def boxReply (json : Json) : Answers :=
  boxApi.answers (.response 200 (some (Utf8.encode json.toText)))

/-- The lesson about the box is loaded and its selector is run.  Before there is an answer another
selector is put in, and the answer is named after a third one. -/
def facesRun : List Moment := [
  ⟨⟨0⟩, .call (.lesson (.load ⟨"extrude"⟩))⟩,
  ⟨⟨1⟩, .arrival 0 (boxReply (.object [("id", .text "extrude"), ("title", .text "Extrude"),
    ("startingSelection", .text " faces "), ("model", .text "box")]))⟩,
  ⟨⟨2⟩, .arrival 0 (boxReply (.object [("modelId", .text "box"), ("meshUrl", .text "/box.glb")]))⟩,
  ⟨⟨3⟩, .call (.lesson .run)⟩, ⟨⟨4⟩, .edit (.setSelection "edges")⟩,
  ⟨⟨5⟩, .arrival 1 (boxReply (.object [("expression", .text "vertices")]))⟩]

/-- The faces of the box are remembered under the selector that was run. -/
theorem history_is_of_faces :
    (∀ m ∈ facesRun, m.event.meddles = false) ∧ (∀ m ∈ facesRun, m.event.IsOverHttp) ∧
    ({} : Session).appliedRuns facesRun = [(1, ⟨⟨5⟩, { expression := "faces" }⟩)] ∧
    (({} : Session).after facesRun).shared.history = [⟨⟨5⟩, { expression := "faces" }⟩] ∧
    ∃ page earlier first between last later answers model filters,
      ({} : Session).stages facesRun = earlier ++ first :: between ++ last :: later ∧
      first.Starts (Page.run page) 1 ∧ last.Ends page.run 1 .applied ∧
      first.before.model? page = some model ∧ last.event = .arrival 1 answers ∧
      answers (.select (.of model.id (Text.trim (first.before.selector page)) filters)) =
        .ok { expression := "faces" } ∧ ⟨5⟩ = last.time ∧
      "faces" = Text.trim (first.before.selector page) ∧ "faces" ≠ "" ∧
      ∀ editor, HistoryEntry.expressionOr ⟨⟨5⟩, { expression := "faces" }⟩ editor = "faces" := by
  -- There is one applied run, and the theorem tells all of it.
  have unmeddled : ∀ m ∈ facesRun, m.event.meddles = false := by simp [facesRun, Event.meddles]
  have http : ∀ m ∈ facesRun, m.event.IsOverHttp := by
    simp [facesRun, Event.IsOverHttp, boxReply]
  have runs : ({} : Session).appliedRuns facesRun = [(1, ⟨⟨5⟩, { expression := "faces" }⟩)] := by
    decide +kernel
  obtain ⟨history, -, -, entries⟩ := history_is_of_applied_runs unmeddled http
  rw [runs] at history entries
  exact ⟨unmeddled, http, runs, history, entries _ _ (List.mem_singleton_self _)⟩

end Session

end SelectorTutorial
