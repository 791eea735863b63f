import Mathlib.Data.List.Induction
import SelectorTutorial.Session.Basic

/-! Runs of a session, and what each of their stages does to the calls that wait. -/

namespace SelectorTutorial

/-- An event, and when it happens. -/
structure Session.Moment where
  /-- When it happens. -/
  time : Timestamp
  /-- What happens. -/
  event : Session.Event

/-- A stage of a run: what happens, and the session that it happens to. -/
structure Session.Stage extends Session.Moment where
  /-- The session before it. -/
  before : Session

namespace Session

/-- Whether an event is something asked of a page, and not an answer of the backend. -/
def Event.isCall : Event → Bool
  | .call _ | .edit _ => true
  -- An answer belongs to a call that was counted when it was made.
  | .arrival _ _ => false

/-- How many calls are made in a run, edits among them. -/
def callsMade (run : List Moment) : Nat :=
  run.countP (·.event.isCall)

namespace Stage

/-- What comes of a stage. -/
def aftermath (g : Stage) : Aftermath :=
  g.before.step g.time g.event

/-- The session after a stage. -/
def after (g : Stage) : Session :=
  g.aftermath.session

/-- The call that a stage is about, and how far that call has come. -/
def call? (g : Stage) : Option (Nat × Progress Waiting Result) :=
  g.aftermath.call

end Stage

/-- What happens to a session is a stage. -/
def stage (s : Session) (m : Moment) : Stage :=
  { m with before := s }

/-- The session at the end of a run. -/
def after (s : Session) (run : List Moment) : Session :=
  run.foldl (fun s m => (s.stage m).after) s

/-- The stages of a run. -/
def stages (s : Session) : List Moment → List Stage
  | [] => []
  | m :: run => s.stage m :: (s.stage m).after.stages run

/-- After an empty run a session is as it was. -/
@[simp] theorem after_nil (s : Session) : s.after [] = s := rfl

/-- A run goes on after its first stage. -/
@[simp] theorem after_cons (s : Session) (m : Moment) (run : List Moment) :
    s.after (m :: run) = (s.stage m).after.after run := rfl

/-- A run can be made in two parts. -/
@[simp] theorem after_append (s : Session) (run rest : List Moment) :
    s.after (run ++ rest) = (s.after run).after rest := by
  -- To fold over two lists is to go on after the first.
  simp only [after, List.foldl_append]

/-- An empty run has no stages. -/
@[simp] theorem stages_nil (s : Session) : s.stages [] = [] := rfl

/-- The first stage of a run comes before those of the rest. -/
@[simp] theorem stages_cons (s : Session) (m : Moment) (run : List Moment) :
    s.stages (m :: run) = s.stage m :: (s.stage m).after.stages run := rfl

/-- The stages of a longer run are those of its parts, one after the other. -/
@[simp] theorem stages_append (s : Session) (run rest : List Moment) :
    s.stages (run ++ rest) = s.stages run ++ (s.after run).stages rest := by
  -- Each stage of the first part hands its session on to the next one.
  induction run generalizing s with
  | nil => rfl
  | cons m run ih => simp [ih]

/-- Splitting the stages of a run splits the run. -/
theorem stages_eq_append {s : Session} {run : List Moment} {xs ys : List Stage}
    (split : s.stages run = xs ++ ys) :
    ∃ first rest, run = first ++ rest ∧ s.stages first = xs ∧ (s.after first).stages rest = ys := by
  -- There is one stage for each moment, so the cut falls between two moments.
  induction xs generalizing s run with
  | nil => exact ⟨[], run, rfl, rfl, split⟩
  | cons g xs ih =>
    cases run with
    | nil => simp at split
    | cons m run =>
      simp only [stages_cons, List.cons_append, List.cons.injEq] at split
      obtain ⟨head, tail⟩ := split
      obtain ⟨first, rest, rfl, firstStages, restStages⟩ := ih tail
      exact ⟨m :: first, rest, rfl, by rw [stages_cons, firstStages, head], restStages⟩

/-- Taking off the first stage of a run takes off its first moment. -/
theorem stages_eq_cons {s : Session} {run : List Moment} {g : Stage} {gs : List Stage}
    (split : s.stages run = g :: gs) :
    ∃ m rest, run = m :: rest ∧ g = s.stage m ∧ gs = g.after.stages rest := by
  -- A run without moments has no stages.
  cases run with
  | nil => simp at split
  | cons m rest =>
    simp only [stages_cons, List.cons.injEq] at split
    obtain ⟨rfl, rfl⟩ := split
    exact ⟨m, rest, rfl, rfl, rfl⟩

/-- A stage of a run comes of one moment, with the moments before it and those after it. -/
theorem stages_eq_append_cons {s : Session} {run : List Moment} {g : Stage} {xs ys : List Stage}
    (split : s.stages run = xs ++ g :: ys) :
    ∃ first m rest, run = first ++ m :: rest ∧ xs = s.stages first ∧
      g = (s.after first).stage m ∧ ys = g.after.stages rest := by
  -- The run is split before the stage, and the stage is taken off the second part.
  obtain ⟨first, run, rfl, before, tail⟩ := stages_eq_append split
  obtain ⟨m, rest, rfl, here, after⟩ := stages_eq_cons tail
  exact ⟨first, m, rest, rfl, before.symm, here, after⟩

/-- What holds at first and is kept by every stage holds at the end of a run. -/
theorem after_of_kept {P : Session → Prop} {s : Session} {run : List Moment} (start : P s)
    (kept : ∀ g ∈ s.stages run, P g.before → P g.after) : P (s.after run) := by
  -- The first stage starts from the session itself, and the others from where it ends.
  induction run generalizing s with
  | nil => exact start
  | cons m run ih =>
    refine ih (kept _ (by simp) start) fun g member => kept g ?_
    simp [member]

/-- A stage of a run stands between the part of the run before it and the part after it. -/
theorem mem_stages {s : Session} {run : List Moment} {g : Stage} (member : g ∈ s.stages run) :
    ∃ first m rest, run = first ++ m :: rest ∧ g = (s.after first).stage m := by
  -- The stages before it are those of the moments before it.
  obtain ⟨earlier, later, split⟩ := List.append_of_mem member
  obtain ⟨first, m, rest, rfl, -, here, -⟩ := stages_eq_append_cons split
  exact ⟨first, m, rest, rfl, here⟩

/-- What happens at a stage of a run is a part of the run. -/
theorem toMoment_mem {s : Session} {run : List Moment} {g : Stage} (member : g ∈ s.stages run) :
    g.toMoment ∈ run := by
  -- The run is split at the stage.
  obtain ⟨first, m, rest, rfl, rfl⟩ := mem_stages member
  simp [stage]

/-- Calls are counted part by part. -/
@[simp] theorem callsMade_append (run rest : List Moment) :
    callsMade (run ++ rest) = callsMade run + callsMade rest :=
  -- Counting goes along with putting lists together.
  List.countP_append

/-! ### The calls of a session -/

/-- No first step of a call touches the other calls. -/
@[simp] theorem begin_calls (now : Timestamp) (s : Session) (call : Call) :
    (s.begin now call).1.calls = s.calls := by
  -- A first step changes pages and lists; the session alone keeps the calls.
  cases call with
  | ensureLessons => simp only [begin]; split <;> rfl
  | ensureCatalog => rfl
  | lesson call => rfl
  | playground call => rfl

/-- No later step of a call touches the other calls. -/
@[simp] theorem goOn_calls (now : Timestamp) (answers : Answers) (s : Session) (on : Waiting) :
    (s.goOn now answers on).1.calls = s.calls := by
  -- The same holds of a later step; what the call waits for next is noted afterwards.
  cases on with
  | lessons => simp only [goOn]; split <;> rfl
  | catalog on => rfl
  | lesson on => rfl
  | playground on => rfl

/-- No edit makes a call. -/
@[simp] theorem edit_calls (now : Timestamp) (s : Session) (edit : Edit) :
    (s.edit now edit).calls = s.calls := by
  -- Edit by edit: the list of calls stays as it is.
  cases edit <;> rfl

/-- A call that waits was started. -/
theorem lt_length_of_waiting {s : Session} {number : Nat} {on : Waiting}
    (waits : s.waiting? number = some on) : number < s.calls.length := by
  -- Nothing stands beyond the calls that were made.
  by_contra outside
  simp [waiting?, List.getElem?_eq_none (Nat.le_of_not_lt outside)] at waits

/-- A call that waits has its place between those that were started before it and after it. -/
theorem exists_split_of_waits {s : Session} {number : Nat} {on : Waiting}
    (waits : s.waiting? number = some on) (next : Option Waiting) :
    ∃ front back, s.calls = front ++ some on :: back ∧ front.length = number ∧
      s.calls.set number next = front ++ next :: back := by
  -- It is the entry at its number in the list of calls.
  have inside := lt_length_of_waiting waits
  have place : s.calls[number] = some on := by simpa [waiting?, inside] using waits
  rw [← place]
  exact List.exists_of_set inside

namespace Stage

/-- A stage that starts a call gives it the next number. -/
theorem of_call {g : Stage} {call : Call} (called : g.event = .call call) :
    g.after = { (g.before.begin g.time call).1 with
      calls := g.before.calls ++ [pending (g.before.begin g.time call).2] } ∧
    g.call? = some (g.before.calls.length, (g.before.begin g.time call).2) := by
  -- This is the case of calls in what a step does.
  simp [after, call?, aftermath, step, start, called]

/-- A stage that edits something is about no call. -/
theorem of_edit {g : Stage} {edit : Edit} (edited : g.event = .edit edit) :
    g.after = g.before.edit g.time edit ∧ g.call? = none := by
  -- This is the case of edits in what a step does.
  simp [after, call?, aftermath, step, edited]

/-- A stage at which an answer arrives that is waited for takes the call on that waits for it. -/
theorem of_arrival {g : Stage} {number : Nat} {answers : Answers} {on : Waiting}
    (arrived : g.event = .arrival number answers) (waits : g.before.waiting? number = some on) :
    g.after = { (g.before.goOn g.time answers on).1 with
      calls := g.before.calls.set number (pending (g.before.goOn g.time answers on).2) } ∧
    g.call? = some (number, (g.before.goOn g.time answers on).2) := by
  -- This is the case of answers to a call that waits.
  simp [after, call?, aftermath, step, answer, arrived, waits]

/-- A stage at which an answer arrives that nothing waits for does nothing. -/
theorem of_stray {g : Stage} {number : Nat} {answers : Answers}
    (arrived : g.event = .arrival number answers) (stray : g.before.waiting? number = none) :
    g.after = g.before ∧ g.call? = none := by
  -- This is the case of answers that nothing waits for.
  simp [after, call?, aftermath, step, arrived, stray]

/-- After a stage every call waits for what it waited for before, but the one that it was about. -/
theorem waiting?_after (g : Stage) (number : Nat) :
    g.after.waiting? number = match g.call? with
      | some (taken, progress) =>
        if taken = number then pending progress else g.before.waiting? number
      | none => g.before.waiting? number := by
  -- A new call stands behind all others, and an answered one keeps its place among them.
  cases event : g.event with
  | call call =>
    obtain ⟨after, call⟩ := of_call event
    simp only [after, call, waiting?]
    split
    · next same => subst same; simp
    · next other =>
      -- Beyond the new call nothing waits, and before it everything is as it was.
      rcases Nat.lt_or_gt_of_ne other with above | below
      · rw [List.getElem?_eq_none (by simp; omega), List.getElem?_eq_none (by omega)]
      · rw [List.getElem?_append_left below]
  | edit edit =>
    obtain ⟨after, call⟩ := of_edit event
    simp [after, call, waiting?]
  | arrival taken answers =>
    cases waits : g.before.waiting? taken with
    | none =>
      obtain ⟨after, call⟩ := of_stray event waits
      simp [after, call]
    | some on =>
      obtain ⟨after, call⟩ := of_arrival event waits
      have inside := lt_length_of_waiting waits
      simp only [after, call, waiting?]
      split
      · next same => subst same; simp [inside]
      · next other => rw [List.getElem?_set_ne other]

/-- No call is ever forgotten. -/
theorem calls_length_le (g : Stage) : g.before.calls.length ≤ g.after.calls.length := by
  -- A call is added, or one of them changes in its place.
  cases event : g.event with
  | call call => simp [(of_call event).1]
  | edit edit => simp [(of_edit event).1]
  | arrival number answers =>
    cases waits : g.before.waiting? number with
    | none => simp [(of_stray event waits).1]
    | some on => simp [(of_arrival event waits).1]

end Stage

/-- No call is ever forgotten in a run. -/
theorem calls_length_le_after (s : Session) (run : List Moment) :
    s.calls.length ≤ (s.after run).calls.length := by
  -- The bound for one stage carries over from stage to stage.
  induction run generalizing s with
  | nil => exact Nat.le_refl _
  | cons m run ih => exact Nat.le_trans (s.stage m).calls_length_le (ih _)

end Session

end SelectorTutorial
