import SelectorTutorial.Proofs.Navigation.LessonOrder

/-! The lists of a session, and what comes of asking the backend for those that are empty. -/

namespace SelectorTutorial

/-- Something that the backend was asked for, and what it said. -/
structure Inquiry where
  /-- What it was asked for. -/
  call : BackendCall
  /-- What it said. -/
  answer : Except BackendError call.Answer

/-- What went wrong with an inquiry. -/
def Inquiry.fault? (i : Inquiry) : Option BackendError :=
  match i.answer with
  | .ok _ => none
  | .error error => some error

section FirstFilled

variable {α : Type}

/-- The first list that has something in it, or else an empty one. -/
def firstFilled (lists : List (List α)) : List α :=
  (lists.find? fun list => !list.isEmpty).getD []

/-- Of one list that is the list itself, whether or not it is filled. -/
theorem firstFilled_singleton (list : List α) : firstFilled [list] = list := by
  -- Where none is filled it is the empty list, which is that list then.
  cases list <;> rfl

/-- The first filled list of a part can stand for that part. -/
theorem firstFilled_cons_firstFilled (lists more : List (List α)) :
    firstFilled (firstFilled lists :: more) = firstFilled (lists ++ more) := by
  -- Where the part has a filled list the search ends with it, else it goes on behind the part.
  unfold firstFilled
  rw [List.find?_append]
  cases found : lists.find? fun list => !list.isEmpty with
  | none => rfl
  | some list =>
    have filled := List.find?_some found
    simp [filled]

/-- A list that has something in it comes before all others. -/
theorem firstFilled_cons {list : List α} (filled : list ≠ []) (more : List (List α)) :
    firstFilled (list :: more) = list := by
  -- The search ends at once.
  simp [firstFilled, filled]

end FirstFilled

/-- The lists that are fetched when they are first needed. -/
inductive Listing where
  /-- The lessons. -/
  | lessons
  /-- The examples. -/
  | examples
deriving DecidableEq, Repr

namespace Listing

/-- What is listed. -/
abbrev Item : Listing → Type
  | lessons => Lesson
  | examples => Example

/-- What the backend is asked for. -/
def call : Listing → BackendCall
  | lessons => .lessons
  | examples => .examples

/-- The list as it is shared. -/
def known : (l : Listing) → Snapshot → List l.Item
  | lessons, s => s.lessons
  | examples, s => s.examples

/-- The list that the backend told when it was asked for it. -/
def told? : (l : Listing) → Inquiry → Option (List l.Item)
  | lessons, ⟨.lessons, .ok told⟩ => some told
  | examples, ⟨.examples, .ok told⟩ => some told
  | _, _ => none

/-- What went wrong when the backend was asked for a list. -/
def fault? (l : Listing) (log : List Inquiry) : Option BackendError :=
  log.findSome? fun i => if i.call = l.call then i.fault? else none

/-- What the user is told of what went wrong. -/
def shown? (l : Listing) (log : List Inquiry) : Option String :=
  (l.fault? log).map (·.shownIn .catalog)

/-- The backend is asked for a list. -/
def inquiry (l : Listing) (answers : Answers) : Inquiry :=
  ⟨l.call, answers l.call⟩

/-- What the backend says when it is asked for a list. -/
def answer (answers : Answers) : (l : Listing) → Except BackendError (List l.Item)
  | lessons => answers .lessons
  | examples => answers .examples

/-- To share a list is a change to what is shared. -/
def change : (l : Listing) → List l.Item → Snapshot.Change
  | lessons, told => .lessons told
  | examples, told => .examples told

/-- What is shared once the backend was asked for a list. -/
def learn (l : Listing) (now : Timestamp) (answers : Answers) (s : Snapshot) : Snapshot :=
  match l.answer answers with
  | .ok told => s.apply now (l.change told)
  | .error _ => s

/-- The backend is asked for some lists one after the other, but for those that are known. -/
def fetch (now : Timestamp) (answers : Answers) : List Listing → Snapshot → Snapshot × List Inquiry
  | [], s => (s, [])
  | l :: rest, s =>
    if (l.known s).isEmpty then
      let others := fetch now answers rest (l.learn now answers s)
      (others.1, l.inquiry answers :: others.2)
    else fetch now answers rest s

/-! ### One list -/

/-- Two lists are asked for alike only if they are the same. -/
theorem call_inj {l other : Listing} : l.call = other.call ↔ l = other := by
  -- There are two of them.
  cases l <;> cases other <;> simp [call]

/-- To make the call for a list is to ask for that list. -/
theorem inquiry_of_call {l : Listing} {call : BackendCall} (asks : call = l.call)
    (answers : Answers) : (⟨call, answers call⟩ : Inquiry) = l.inquiry answers := by
  -- The answer is that to this very call.
  subst asks
  rfl

/-- A list is told unless something goes wrong. -/
theorem told?_inquiry (l : Listing) (answers : Answers) :
    l.told? (l.inquiry answers) = (l.answer answers).toOption := by
  -- The answer to the inquiry is the one for its list.
  cases l with
  | lessons =>
    simp only [inquiry, answer, call]
    cases answers .lessons <;> rfl
  | examples =>
    simp only [inquiry, answer, call]
    cases answers .examples <;> rfl

/-- Something goes wrong unless a list is told. -/
theorem fault?_inquiry (l : Listing) (answers : Answers) :
    l.fault? [l.inquiry answers] = match l.answer answers with
      -- The inquiry is the only one in the log, and it is for this list.
      | .ok _ => none
      | .error error => some error := by
  cases l with
  | lessons =>
    simp only [inquiry, answer, call]
    cases answers .lessons <;> rfl
  | examples =>
    simp only [inquiry, answer, call]
    cases answers .examples <;> rfl

/-- To share a list changes that list and no other. -/
theorem known_apply_change (now : Timestamp) (s : Snapshot) (l : Listing) (told : List l.Item) :
    l.known (s.apply now (l.change told)) = told ∧
      ∀ other, other ≠ l → other.known (s.apply now (l.change told)) = other.known s := by
  -- Each list has a field of its own.
  cases l with
  | lessons | examples =>
    refine ⟨rfl, fun other different => ?_⟩
    cases other <;> first | rfl | exact absurd rfl different

/-- A list is the one that was told of it, if any was. -/
theorem known_learn (l : Listing) (now : Timestamp) (answers : Answers) (s : Snapshot) :
    l.known (l.learn now answers s) = (l.told? (l.inquiry answers)).getD (l.known s) := by
  -- Where nothing was told the list stays as it is.
  rw [told?_inquiry, learn]
  split
  · next told heard => rw [heard, (known_apply_change now s l told).1]; rfl
  · next failed => rw [failed]; rfl

/-- What is told of a list leaves the other one alone. -/
theorem known_learn_of_ne {l other : Listing} (different : other ≠ l) (now : Timestamp)
    (answers : Answers) (s : Snapshot) : other.known (l.learn now answers s) = other.known s := by
  -- It is learnt by sharing it, or not at all.
  unfold learn
  split
  · next told _ => exact (known_apply_change now s l told).2 other different
  · rfl

/-- The order stays that of the lessons. -/
theorem keepsOrder_learn (l : Listing) (now : Timestamp) (answers : Answers) {s : Snapshot}
    (keeps : s.KeepsOrder) : (l.learn now answers s).KeepsOrder := by
  -- The list is shared with its order, or nothing changes.
  unfold learn
  split
  · exact keeps.apply now _
  · exact keeps

/-- An inquiry tells nothing of the other list. -/
theorem told?_inquiry_of_ne {l other : Listing} (different : other ≠ l) (answers : Answers) :
    other.told? (l.inquiry answers) = none := by
  -- It is an inquiry for another list.
  cases l <;> cases other <;> first | exact absurd rfl different | rfl

/-- There is nothing to tell of a list that is not asked for. -/
theorem shown?_inquiry_of_ne {l other : Listing} (different : other ≠ l) (answers : Answers) :
    other.shown? [l.inquiry answers] = none := by
  -- The one inquiry in the log is for another list.
  have apart : l.call ≠ other.call := fun same => different (call_inj.mp same).symm
  simp [shown?, fault?, inquiry, apart]

/-- What goes wrong first is told. -/
theorem shown?_append (l : Listing) (log more : List Inquiry) :
    l.shown? (log ++ more) = (l.shown? log).or (l.shown? more) := by
  -- The first fault in a log is that of its first part, if that has one.
  rw [shown?, fault?, List.findSome?_append, Option.map_or]
  rfl

/-! ### Some lists -/

variable {now : Timestamp} {answers : Answers} {lists : List Listing} {s : Snapshot}

/-- A list that is known is not fetched. -/
theorem fetch_of_known {l : Listing} (known : l.known s ≠ []) :
    fetch now answers (l :: lists) s = fetch now answers lists s := by
  -- It is passed over.
  simp [fetch, known]

/-- A list that is not known is asked for and learnt before the others. -/
theorem fetch_of_unknown {l : Listing} (unknown : l.known s = []) :
    fetch now answers (l :: lists) s =
      ((fetch now answers lists (l.learn now answers s)).1,
        l.inquiry answers :: (fetch now answers lists (l.learn now answers s)).2) := by
  -- It comes first in the log.
  simp [fetch, unknown]

/-- The lists that are asked for are those that have nothing in them before. -/
theorem calls_fetch (now : Timestamp) (answers : Answers) (once : lists.Nodup) (s : Snapshot) :
    (fetch now answers lists s).2.map (·.call) =
      (lists.filter fun l => (l.known s).isEmpty).map (·.call) := by
  -- By induction on the lists; each of them comes once.
  induction lists generalizing s with
  | nil => rfl
  | cons l lists ih =>
    obtain ⟨fresh, once⟩ := List.nodup_cons.mp once
    by_cases unknown : l.known s = []
    · -- What is told of this list has no bearing on the others.
      have others : (lists.filter fun other => (other.known (l.learn now answers s)).isEmpty) =
          lists.filter fun other => (other.known s).isEmpty := by
        refine List.filter_congr fun other member => ?_
        have different : other ≠ l := fun same => fresh (same ▸ member)
        rw [known_learn_of_ne different]
      simp [fetch_of_unknown unknown, ih once, others, unknown, inquiry]
    · simp [fetch_of_known unknown, ih once, unknown]

/-- A list is the first filled one of what it was and of all that was told of it. -/
theorem known_fetch (now : Timestamp) (answers : Answers) (lists : List Listing) (s : Snapshot)
    (l : Listing) :
    l.known (fetch now answers lists s).1 =
      firstFilled (l.known s :: (fetch now answers lists s).2.filterMap l.told?) := by
  -- The induction is on the lists still to come, from whatever the ones before have left.
  induction lists generalizing s with
  | nil => exact (firstFilled_singleton _).symm
  | cons other lists ih =>
    by_cases unknown : other.known s = []
    · simp only [fetch_of_unknown unknown, ih]
      by_cases same : l = other
      · subst same
        -- What was told stands in the place of nothing.
        rw [known_learn, unknown]
        cases told : l.told? (l.inquiry answers) with
        | none => simp [told]
        | some told' => simp [told, firstFilled]
      · rw [known_learn_of_ne same, List.filterMap_cons_none (told?_inquiry_of_ne same answers)]
    · rw [fetch_of_known unknown, ih]

/-- The order stays that of the lessons. -/
theorem keepsOrder_fetch (now : Timestamp) (answers : Answers) (lists : List Listing)
    (keeps : s.KeepsOrder) :
    (fetch now answers lists s).1.KeepsOrder := by
  -- List by list, each of which is passed over or learnt.
  induction lists generalizing s with
  | nil => exact keeps
  | cons l lists ih =>
    by_cases unknown : l.known s = []
    · rw [fetch_of_unknown unknown]
      exact ih (keepsOrder_learn l now answers keeps)
    · rw [fetch_of_known unknown]
      exact ih keeps

end Listing

end SelectorTutorial
