import SelectorTutorial.Proofs.Backend.Detail
import SelectorTutorial.Proofs.Session.Ticket

/-! What the user is told when a call fails, and when there is nothing to be read in it. -/

namespace SelectorTutorial

/-- What is said of a bound that is no number is never blank. -/
theorem FilterFault.not_isBlank_message (fault : FilterFault) : ¬ Text.IsBlank fault.message := by
  -- There is a letter in the part that is always there.
  intro blank
  have letter : 'm' ∈ fault.message.toList := by
    rw [message, String.toList_append, String.toList_append]
    simp
  exact absurd (blank 'm' letter) (by decide)

/-- What the user was doing when an errand failed. -/
def Errand.context : Errand → BackendError.Context
  | load => .loadLesson
  | lessonRun => .selection
  | compile => .compile
  | playgroundRun => .selection

/-- Only a load is told of as a load. -/
theorem Errand.context_eq_loadLesson_iff {errand : Errand} :
    errand.context = .loadLesson ↔ errand = .load := by
  -- There are four errands.
  cases errand <;> decide

namespace Session

namespace Stage

/-- The call with some number has ended, and came to an outcome. -/
def ComesTo (g : Stage) (number : Nat) (outcome : Outcome) : Prop :=
  ∃ result, g.call? = some (number, .finished result) ∧ result.outcome? = some outcome

/-- A call comes to what the part of it does that comes to its end. -/
theorem ComesTo.of_map {g : Stage} {number other : Nat} {outcome : Outcome} {W R : Type}
    {f : W → Waiting} {h : R → Result} {progress : Progress W R} (comes : g.ComesTo number outcome)
    (taken : g.call? = some (other, progress.map f h)) :
    number = other ∧ ∃ mine, progress = .finished mine ∧ (h mine).outcome? = some outcome := by
  -- A part of a call ends just as the call does.
  obtain ⟨result, finished, came⟩ := comes
  rw [taken, Option.some.injEq, Prod.mk.injEq] at finished
  obtain ⟨mine, mineFinished, rfl⟩ := Progress.map_eq_finished.mp finished.2
  exact ⟨finished.1.symm, mine, mineFinished, came⟩

/-- The call that a stage is about has failed, and the user is told something. -/
def Fails (g : Stage) (number : Nat) (message : String) : Prop :=
  ∃ result, g.call? = some (number, .finished result) ∧ result.outcome? = some (.failed message)

/-- What arrives at a stage comes of a request: a reply, or word that it could not be sent. -/
def HearsBackend (g : Stage) : Prop :=
  ∀ number answers, g.event = .arrival number answers → answers.IsHeard

variable {g : Stage} {number : Nat} {message : String}

/-- A call fails as the part of it does that comes to its end. -/
theorem Fails.of_map {W R : Type} {f : W → Waiting} {h : R → Result} {progress : Progress W R}
    {other : Nat} (fails : g.Fails number message)
    (taken : g.call? = some (other, progress.map f h)) :
    number = other ∧
      ∃ mine, progress = .finished mine ∧ (h mine).outcome? = some (.failed message) :=
  -- To fail is one way to come to an end.
  ComesTo.of_map fails taken

/-- A call that fails at its first step fails for a file or a bound, of which the user is told. -/
theorem Fails.not_isBlank_of_call (fails : g.Fails number message) {call : Call}
    (called : g.event = .call call) : ¬ Text.IsBlank message := by
  -- By the calls: at their first step only the playground's can fail, and only for what was put in.
  cases call with
  | ensureLessons =>
    obtain ⟨result, finished, failed⟩ := fails
    rw [(of_call called).2] at finished
    simp only [begin] at finished
    split at finished <;> cases finished
    cases failed
  | ensureCatalog =>
    obtain ⟨-, status, -, failed⟩ := fails.of_map (of_call called).2
    cases failed
  | lesson call =>
    obtain ⟨step, begins, takes⟩ := begins_of_lesson called
    obtain ⟨-, result, finished, failed⟩ := fails.of_map takes.taken
    cases begins <;> cases finished <;> cases failed
  | playground call =>
    obtain ⟨step, begins, takes⟩ := begins_of_playground called
    obtain ⟨-, result, finished, failed⟩ := fails.of_map takes.taken
    cases begins with
    | unsupported =>
      cases finished
      cases failed
      decide
    | @unreadable _ fault =>
      cases finished
      cases failed
      exact fault.not_isBlank_message
    | asked | prepared | skipped | compiles | runs => cases finished <;> cases failed

/-- An errand ends with the message for an error, which is the one that was answered unless it has
cost the user the lesson to be loaded. -/
def EndsFor (g : Stage) (answers : Answers) (number : Nat) (message : String) : Prop :=
  ∃ errand cause, g.Ends errand number (.failed message) ∧
    message = cause.shownIn errand.context ∧ (errand = .load ∨ ∃ call, answers call = .error cause)

variable {other : Nat} {answers : Answers}

/-- A call that fails as an answer arrives ends the errand that it was on. -/
theorem Fails.ends (fails : g.Fails number message) {on : Waiting} {errand : Errand}
    {ticket : Ticket} (arrived : g.event = .arrival number answers)
    (waits : g.before.waiting? number = some on) (holds : on.held? = some (errand, ticket)) :
    g.Ends errand number (.failed message) := by
  -- This is what it means to end an errand.
  obtain ⟨result, finished, failed⟩ := fails
  exact ⟨answers, on, ticket, result, arrived, waits, holds, finished, failed⟩

/-- A call of the lesson page fails later for a load that was given up, or for a refused
selector. -/
theorem Fails.of_lesson (fails : g.Fails number message) {on : LessonPage.Waiting}
    (arrived : g.event = .arrival other answers)
    (waits : g.before.waiting? other = some (.lesson on)) :
    number = other ∧ g.EndsFor answers number message := by
  -- By the ways a call of the lesson page goes on: two of them fail.
  obtain ⟨step, goesOn, takes⟩ := goesOn_of_lesson arrived waits
  obtain ⟨rfl, result, finished, failed⟩ := fails.of_map takes.taken
  cases goesOn with
  | failed holds =>
    cases finished
    cases failed
    exact ⟨rfl, .load, _, fails.ends arrived waits holds, rfl, .inl rfl⟩
  | refused _ answered =>
    cases finished
    cases failed
    exact ⟨rfl, .lessonRun, _, fails.ends arrived waits rfl, rfl, .inr ⟨_, answered⟩⟩
  | late _ _ _ dropped =>
    cases finished
    rw [Result.outcome?, dropped] at failed
    cases failed
  | found | lost | fetched | seeks | applied | selected => cases finished <;> cases failed

/-- A call of the playground fails later for a source or a selector that was refused. -/
theorem Fails.of_playground (fails : g.Fails number message) {on : Playground.Waiting}
    (arrived : g.event = .arrival other answers)
    (waits : g.before.waiting? other = some (.playground on)) :
    number = other ∧ g.EndsFor answers number message := by
  -- By the ways a call of the playground goes on: two of them fail.
  obtain ⟨step, goesOn, takes⟩ := goesOn_of_playground arrived waits
  obtain ⟨rfl, result, finished, failed⟩ := fails.of_map takes.taken
  cases goesOn with
  | failed _ answered =>
    cases finished
    cases failed
    exact ⟨rfl, .compile, _, fails.ends arrived waits rfl, rfl, .inr ⟨_, answered⟩⟩
  | refused _ answered =>
    cases finished
    cases failed
    exact ⟨rfl, .playgroundRun, _, fails.ends arrived waits rfl, rfl, .inr ⟨_, answered⟩⟩
  | asked | prepared | applied | selected | late => cases finished <;> cases failed

/-- A call that fails once an answer has arrived fails for an error. -/
theorem Fails.of_arrival (fails : g.Fails number message)
    (arrived : g.event = .arrival other answers) :
    number = other ∧ g.EndsFor answers number message := by
  -- By what waits for the answer.
  cases waits : g.before.waiting? other with
  | none =>
    obtain ⟨result, taken, -⟩ := fails
    rw [(Stage.of_stray arrived waits).2] at taken
    cases taken
  | some on =>
    have taken := (Stage.of_arrival arrived waits).2
    cases on with
    | lesson on => exact fails.of_lesson arrived waits
    | playground on => exact fails.of_playground arrived waits
    -- To fetch the lists is not one of the calls that can fail.
    | catalog on =>
      obtain ⟨-, status, -, failed⟩ := fails.of_map taken
      cases failed
    | lessons =>
      obtain ⟨result, finished, failed⟩ := fails
      rw [taken] at finished
      simp only [goOn] at finished
      split at finished <;> cases finished <;> cases failed

/-- The message of a call that fails is blank just when the call was to compile something or to run
a selector, and was refused for one reason that is blank. -/
theorem Fails.isBlank_iff (fails : g.Fails number message) (heard : g.HearsBackend) :
    Text.IsBlank message ↔ ∃ errand answers, errand ≠ .load ∧
      g.Ends errand number (.failed message) ∧ g.event = .arrival number answers ∧
      answers.IsBlankRefusal := by
  -- By what happens at the stage: a first step has a message of its own, and an answer has the
  -- detail of the backend or a fixed text.
  cases event : g.event with
  | call call =>
    have solid := fails.not_isBlank_of_call event
    simp [solid]
  | edit edit =>
    obtain ⟨result, taken, -⟩ := fails
    rw [(of_edit event).2] at taken
    cases taken
  | arrival other answers =>
    obtain ⟨rfl, errand, cause, ends, rfl, met⟩ := fails.of_arrival event
    rw [BackendError.isBlank_shownIn_iff]
    constructor
    · rintro ⟨away, blank⟩
      rw [ne_eq, Errand.context_eq_loadLesson_iff] at away
      obtain ⟨call, answered⟩ := met.resolve_left away
      exact ⟨errand, answers, away, ends, rfl,
        ((heard _ _ event).exists_blank_iff answered).mp blank⟩
    · rintro ⟨mine, _, away, mineEnds, ⟨⟩, refusal⟩
      obtain ⟨_, on, ticket, _, arrived, waits, holds, -⟩ := ends
      obtain rfl : errand = mine := mineEnds.errand_eq arrived waits holds
      obtain ⟨call, answered⟩ := met.resolve_left away
      exact ⟨mt Errand.context_eq_loadLesson_iff.mp away,
        ((heard _ _ event).exists_blank_iff answered).mpr refusal⟩

end Stage

/-- What is read of the body of a refusal is blank just when the body lists one reason with a
message, and that message is blank.  So, as long as all that arrives are replies and word of
requests that could not be sent, a call that fails leaves the user with a blank message just when it
was to compile something or to run a selector, and was refused with such a body; in all other cases
there is something to be read. -/
theorem message_is_blank_iff (g : Stage) (number : Nat) (message : String) :
    (∀ body, (∃ reason, Refusal.detail? body = some reason ∧ Text.IsBlank reason) ↔
      Refusal.HasBlankReason body) ∧
    (g.HearsBackend → g.Fails number message →
      (Text.IsBlank message ↔ ∃ errand answers, errand ≠ .load ∧
        g.Ends errand number (.failed message) ∧ g.event = .arrival number answers ∧
        answers.IsBlankRefusal)) :=
  -- The first part is about bodies alone, the second one brings them to the failing call.
  ⟨fun _ => Refusal.exists_blank_detail_iff, fun heard fails => fails.isBlank_iff heard⟩

/-- A body that lists one reason, which is a space. -/
def spaceReason : String :=
  (Json.object [("detail", .list [.object [("msg", .text " ")]])]).toText

/-- The space is read of that body. -/
theorem detail?_spaceReason :
    Refusal.detail? (Utf8.decodeLossy (Utf8.encode spaceReason)) = some " " := by
  -- The body is decoded and read by computation.
  decide +kernel

/-- A compilation is refused with that body. -/
def spaceStage : Stage :=
  (({} : Session).after [
    ⟨⟨0⟩, .edit (.form fun form => { form with source := "box()" })⟩,
    ⟨⟨1⟩, .call (.playground .compile)⟩]).stage
  ⟨⟨2⟩, .arrival 0 (Api.nearby.answers (.response 422 (some (Utf8.encode spaceReason))))⟩

/-- What arrives at that stage is a reply of the backend. -/
theorem spaceStage_hearsBackend : spaceStage.HearsBackend := by
  -- The only arrival is read of a reply.
  rintro number answers ⟨⟩
  exact .reply _ _

/-- All that the user is told is the space. -/
theorem spaceStage_fails : spaceStage.Fails 0 " " := by
  -- The compilation is answered while its ticket counts, and the answer is the refusal.
  have answered : Api.nearby.answers (.response 422 (some (Utf8.encode spaceReason)))
      (.compile (.inline "box()")) = .error (.compileRejected (some " ")) := by
    have said : Api.detail? (some (Utf8.encode spaceReason)) = some " " := detail?_spaceReason
    rw [Api.answers, Api.read, said]
    rfl
  have waits : spaceStage.before.waiting? 0 =
      some (.playground (.compile ⟨.compile, 1⟩ (.inline "box()"))) := rfl
  obtain ⟨step, goesOn, takes⟩ := Stage.goesOn_of_playground (g := spaceStage) rfl waits
  cases goesOn with
  | applied _ compiled =>
    rw [answered] at compiled
    cases compiled
  | failed _ refused =>
    rw [answered] at refused
    cases refused
    exact ⟨_, takes.taken, rfl⟩
  | late holds late =>
    cases holds
    exact absurd late (by decide)

/-- The space is a blank message, which is just what is told of that refusal. -/
theorem message_is_space :
    spaceStage.HearsBackend ∧ spaceStage.Fails 0 " " ∧
    (Text.IsBlank " " ↔ ∃ errand answers, errand ≠ .load ∧
      spaceStage.Ends errand 0 (.failed " ") ∧ spaceStage.event = .arrival 0 answers ∧
      answers.IsBlankRefusal) :=
  -- The theorem is applied at that stage.
  ⟨spaceStage_hearsBackend, spaceStage_fails,
    (message_is_blank_iff spaceStage 0 " ").2 spaceStage_hearsBackend spaceStage_fails⟩

/-- A body can tell something blank, and so can the message of a call that failed. -/
theorem exists_blank_message :
    (¬ ∀ body reason, Refusal.detail? body = some reason → ¬ Text.IsBlank reason) ∧
    ¬ ∀ (g : Stage) (number : Nat) (message : String), g.HearsBackend → g.Fails number message →
      ¬ Text.IsBlank message := by
  -- One body and one stage show it.
  have blank : Text.IsBlank " " := by decide
  exact ⟨fun solid => solid _ _ detail?_spaceReason blank,
    fun solid => solid _ _ _ spaceStage_hearsBackend spaceStage_fails blank⟩

end Session

end SelectorTutorial
