import SelectorTutorial.Proofs.Session.Errand

/-! All that one step of a call of the playground can do, said once. -/

namespace SelectorTutorial

/-- At most the lists that are shared have changed. -/
def Snapshot.SameButLists (old new : Snapshot) : Prop :=
  new = { old with lessons := new.lessons, order := new.order, examples := new.examples }

/-- The model is no list. -/
theorem Snapshot.SameButLists.model_eq {old new : Snapshot} (same : old.SameButLists new) :
    new.model = old.model := by
  -- All that differs is in the lists.
  rw [same]

/-- The result is no list. -/
theorem Snapshot.SameButLists.result_eq {old new : Snapshot} (same : old.SameButLists new) :
    new.result = old.result := by
  -- All that differs is in the lists.
  rw [same]

/-- The history is no list. -/
theorem Snapshot.SameButLists.history_eq {old new : Snapshot} (same : old.SameButLists new) :
    new.history = old.history := by
  -- All that differs is in the lists.
  rw [same]

/-- A step towards the lists fetches at most the lists. -/
theorem Catalog.resume_sameButLists (now : Timestamp) (answers : Answers) (shared : Snapshot)
    (on : Waiting) : shared.SameButLists (resume now answers shared on).1 := by
  -- A list that cannot be fetched stays what it was.
  cases on with
  | lessons =>
    simp only [resume, takeLessons]
    cases answers .lessons <;> rfl
  | examples lessonsError =>
    simp only [resume]
    cases answers .examples <;> rfl

namespace Playground

/-- The playground once a model has taken the place of the one before. -/
def showing (page : Playground) (model : Model) : Playground :=
  { page with
    model := some model
    compileStatus := page.compileStatus.succeed
    selectionStatus := {}
    tickets := page.tickets.invalidate .selection }

/-- Choosing an example fills in the form and nothing else. -/
theorem preselect_eq (page : Playground) (shared : Snapshot) :
    page.preselect shared = { page with form := (page.preselect shared).form } := by
  -- It chooses one or leaves the page alone.
  unfold preselect
  split <;> rfl

/-- To choose an example issues no ticket. -/
@[simp] theorem preselect_tickets (page : Playground) (shared : Snapshot) :
    (page.preselect shared).tickets = page.tickets := by
  -- Only the form changes.
  rw [preselect_eq]

/-- To choose an example does not touch the model. -/
@[simp] theorem preselect_model (page : Playground) (shared : Snapshot) :
    (page.preselect shared).model = page.model := by
  -- Only the form changes.
  rw [preselect_eq]

/-- What the first step of a call comes to. -/
inductive Begins (page : Playground) (shared : Snapshot) : Call → Step → Prop
  /-- A list is asked for. -/
  | asked {on} : Begins page shared .prepare ⟨page, shared, .waiting (.catalog on)⟩
  /-- The lists are there, and an example is chosen. -/
  | prepared {status} :
      Begins page shared .prepare
        ⟨page.preselect shared, shared, .finished (.prepared status)⟩
  /-- There is nothing to compile, or nothing to run, or nothing to run it against. -/
  | skipped {call} (lacking : (call = .compile ∧ page.form.modelSource? = none) ∨
        (call = .run ∧ (page.model = none ∨ Text.trim page.form.selection = ""))) :
      Begins page shared call ⟨page, shared, .finished (.done .skipped)⟩
  /-- A file cannot be compiled, which the page shows. -/
  | unsupported {file} (chosen : page.form.modelSource? = some (.upload file))
      (wrong : file.isSupported = false) :
      Begins page shared .compile
        ⟨{ page with compileStatus := page.compileStatus.fail unsupportedUpload }, shared,
          .finished (.done (.failed unsupportedUpload))⟩
  /-- What was put in is compiled under a new ticket. -/
  | compiles {source} (chosen : page.form.modelSource? = some source)
      (suited : ∀ file, source = .upload file → file.isSupported = true) :
      Begins page shared .compile
        ⟨{ page with
            compileStatus := page.compileStatus.begin
            tickets := page.tickets.invalidate .compile },
          shared, .waiting (.compile (page.tickets.issue .compile).1 source)⟩
  /-- A bound is no number, which the page shows. -/
  | unreadable {model fault} (has : page.model = some model)
      (typed : Text.trim page.form.selection ≠ "")
      (faulty : page.form.filters.filters? = .error fault) :
      Begins page shared .run
        ⟨{ page with selectionStatus := page.selectionStatus.fail fault.message }, shared,
          .finished (.done (.failed fault.message))⟩
  /-- The selector is run against the model of the page under a new ticket. -/
  | runs {model filters} (has : page.model = some model)
      (typed : Text.trim page.form.selection ≠ "")
      (read : page.form.filters.filters? = .ok filters) :
      Begins page shared .run
        ⟨{ page with
            selectionStatus := page.selectionStatus.begin
            tickets := page.tickets.invalidate .selection },
          shared,
          .waiting (.selection (page.tickets.issue .selection).1
            (.of model.id (Text.trim page.form.selection) filters))⟩

/-- What a later step of a call comes to. -/
inductive GoesOn (now : Timestamp) (answers : Answers) (page : Playground) (shared : Snapshot) :
    Waiting → Step → Prop
  /-- The other list is asked for. -/
  | asked {on next fetched} (lists : shared.SameButLists fetched) :
      GoesOn now answers page shared (.catalog on) ⟨page, fetched, .waiting (.catalog next)⟩
  /-- The lists are there, or cannot be fetched, and an example is chosen. -/
  | prepared {on fetched status} (lists : shared.SameButLists fetched) :
      GoesOn now answers page shared (.catalog on)
        ⟨page.preselect fetched, fetched, .finished (.prepared status)⟩
  /-- The model takes the place of the one before. -/
  | applied {ticket source model} (current : page.tickets.isCurrent ticket = true)
      (answered : answers (.compile source) = .ok model) :
      GoesOn now answers page shared (.compile ticket source)
        ⟨page.showing model,
          (shared.apply now (.model (some model))).apply now (.result none),
          .finished (.done .applied)⟩
  /-- There is no model, which the page shows. -/
  | failed {ticket source error} (current : page.tickets.isCurrent ticket = true)
      (answered : answers (.compile source) = .error error) :
      GoesOn now answers page shared (.compile ticket source)
        ⟨{ page with compileStatus := page.compileStatus.fail (error.shownIn .compile) }, shared,
          .finished (.done (.failed (error.shownIn .compile)))⟩
  /-- The result of the selector is there. -/
  | selected {ticket request result} (current : page.tickets.isCurrent ticket = true)
      (answered : answers (.select request) = .ok result) :
      GoesOn now answers page shared (.selection ticket request)
        ⟨{ page with selectionStatus := page.selectionStatus.succeed },
          shared.apply now (.result (some result)), .finished (.done .applied)⟩
  /-- The selector cannot be run, which the page shows. -/
  | refused {ticket request error} (current : page.tickets.isCurrent ticket = true)
      (answered : answers (.select request) = .error error) :
      GoesOn now answers page shared (.selection ticket request)
        ⟨{ page with selectionStatus := page.selectionStatus.fail (error.shownIn .selection) },
          shared, .finished (.done (.failed (error.shownIn .selection)))⟩
  /-- The ticket is late, and what came back is dropped. -/
  | late {on errand ticket} (holds : on.held? = some (errand, ticket))
      (late : page.tickets.isCurrent ticket = false) :
      GoesOn now answers page shared on ⟨page, shared, .finished (.done .superseded)⟩

/-- Compiling finds nothing to compile or a file of the wrong kind, or takes a ticket. -/
theorem startCompile_begins (page : Playground) (shared : Snapshot) :
    Begins page shared .compile (page.startCompile shared) := by
  -- A file of the wrong kind is turned down before it costs a ticket.
  unfold startCompile
  cases chosen : page.form.modelSource? with
  | none => exact .skipped (.inl ⟨rfl, chosen⟩)
  | some source =>
    cases source with
    | upload file =>
      cases suited : file.isSupported with
      | false =>
        simp only [suited]
        exact .unsupported chosen suited
      | true =>
        simp only [suited]
        exact .compiles chosen fun _ same => by cases same; exact suited
    | inline text => exact .compiles chosen nofun
    | «example» id => exact .compiles chosen nofun

/-- Running the selector finds nothing to run or a bound that is no number, or takes a ticket. -/
theorem startRun_begins (page : Playground) (shared : Snapshot) :
    Begins page shared .run (page.startRun shared) := by
  -- The bounds are read last, and a bound that is no number costs no ticket either.
  unfold startRun
  split
  · next lacking => exact .skipped (.inr ⟨rfl, .inl lacking⟩)
  · next model has =>
    by_cases blank : Text.trim page.form.selection = ""
    · rw [if_pos blank]
      exact .skipped (.inr ⟨rfl, .inr blank⟩)
    · rw [if_neg blank]
      cases read : page.form.filters.filters? with
      | error fault => exact .unreadable has blank read
      | ok filters => exact .runs has blank read

/-- The first step of a call does one of these things. -/
theorem start_begins (page : Playground) (shared : Snapshot) (call : Call) :
    Begins page shared call (page.start shared call) := by
  -- Preparing the page is fetching the lists, and then choosing an example.
  cases call with
  | prepare =>
    simp only [start]
    cases Catalog.start shared with
    | waiting on => exact .asked
    | finished status => exact .prepared
  | compile => exact startCompile_begins page shared
  | run => exact startRun_begins page shared

/-- A later step of a call does one of these things. -/
theorem resume_goesOn (now : Timestamp) (answers : Answers) (page : Playground)
    (shared : Snapshot) (on : Waiting) :
    GoesOn now answers page shared on (page.resume now answers shared on) := by
  -- The ticket is looked at before the answer is.
  cases on with
  | catalog on =>
    have lists := Catalog.resume_sameButLists now answers shared on
    simp only [resume]
    cases (Catalog.resume now answers shared on).2 with
    | waiting next => exact .asked lists
    | finished status => exact .prepared lists
  | compile ticket source =>
    simp only [resume]
    split
    · next current =>
      split
      · next model answered => exact .applied current answered
      · next error answered => exact .failed current answered
    · next late => exact .late rfl (by simpa using late)
  | selection ticket request =>
    simp only [resume]
    split
    · next current =>
      split
      · next result answered => exact .selected current answered
      · next error answered => exact .refused current answered
    · next late => exact .late rfl (by simpa using late)

/-- The first step of a call takes a ticket or does without. -/
theorem Begins.takes {page : Playground} {shared : Snapshot} {call : Call} {step : Step}
    (begins : Begins page shared call step) :
    page.tickets.Takes .playground step.page.tickets
      (step.progress.map Waiting.held? Result.outcome?) := by
  -- Only compiling and running ask for something that can come too late.
  cases begins with
  | compiles => exact .issues .compile rfl
  | runs => exact .issues .playgroundRun rfl
  | prepared =>
    rw [preselect_tickets]
    exact .without (by simp [Progress.map])
  | asked | skipped | unsupported | unreadable =>
    exact .without (by simp [Progress.map, Waiting.held?])

/-- A later step of a call keeps its ticket, drops its answer or makes it count. -/
theorem GoesOn.handles {now : Timestamp} {answers : Answers} {page : Playground}
    {shared : Snapshot} {on : Waiting} {step : Step}
    (goesOn : GoesOn now answers page shared on step) :
    page.tickets.Handles .playground on.held? step.page.tickets
      (step.progress.map Waiting.held? Result.outcome?) := by
  -- Each errand of the playground has one request only, so no ticket is kept for another.
  cases goesOn with
  | asked => exact .without (by simp [Progress.map, Waiting.held?])
  | prepared =>
    rw [preselect_tickets]
    exact .without (by simp [Progress.map])
  | applied current => exact .counts .compile .applied rfl current nofun
  | failed current => exact .counts .compile (.failed _) rfl current nofun
  | selected current => exact .counts .playgroundRun .applied rfl current nofun
  | refused current => exact .counts .playgroundRun (.failed _) rfl current nofun
  | late holds late =>
    rw [holds]
    exact .drops (Waiting.held?_page holds) late

end Playground

end SelectorTutorial
