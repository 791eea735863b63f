import SelectorTutorial.Proofs.Session.Listing
import SelectorTutorial.Proofs.Session.Run

/-! The lists are fetched when they are first needed, and kept once there is something in them. -/

namespace SelectorTutorial

namespace Session

/-- A call that is made when those before it have ended, and the answers that it gets. -/
structure Turn where
  /-- When it is made. -/
  time : Timestamp
  /-- The call. -/
  call : Call
  /-- What the backend says to whatever it is asked meanwhile. -/
  answers : Answers

/-- A session after a call has gone on. -/
structure Trail where
  /-- The session. -/
  session : Session
  /-- What the backend was asked for meanwhile, and what it said. -/
  log : List Inquiry
  /-- How far the call has come. -/
  progress : Progress Waiting Result

/-- Goes on with the call with some number, as often as is allowed for. -/
def carryOn (now : Timestamp) (answers : Answers) (number : Nat) : (most : Nat) → Step → Trail
  | most + 1, (s, .waiting on) =>
    -- What is asked for is noted together with the answer to it.
    let rest := carryOn now answers number most (s.answer now answers number on)
    { rest with log := ⟨on.call, answers on.call⟩ :: rest.log }
  | _, (s, progress) => { session := s, log := [], progress }

/-- Makes a call and goes on with it. -/
def take (s : Session) (turn : Turn) : Trail :=
  carryOn turn.time turn.answers s.calls.length mostWaits (s.start turn.time turn.call)

/-- A session after some calls, one after the other. -/
def afterTurns (s : Session) (turns : List Turn) : Session :=
  turns.foldl (fun s turn => (s.take turn).session) s

/-- What the backend was asked for by some calls, and what it said. -/
def logOf (s : Session) : List Turn → List Inquiry
  | [] => []
  | turn :: turns => (s.take turn).log ++ (s.take turn).session.logOf turns

/-- The lists that a call needs. -/
def Call.needs : Call → List Listing
  | .ensureLessons => [.lessons]
  | .ensureCatalog => [.lessons, .examples]
  | .playground .prepare => [.lessons, .examples]
  | .lesson (.resolveRoute none) => [.lessons]
  | _ => []

/-- What is told of the lists that could not be fetched. -/
def faults (log : List Inquiry) : Catalog.Status where
  lessonsError := Listing.lessons.shown? log
  examplesError := Listing.examples.shown? log

/-- What a call that needs lists ends with, by what it asked for and what is shared then. -/
inductive Call.EndsWith (log : List Inquiry) (shared : Snapshot) : Call → Result → Prop
  /-- It is told how many lessons there are, or why there are none. -/
  | lessons : EndsWith log shared .ensureLessons (.lessons
      (match Listing.lessons.fault? log with
      | none => .ok shared.lessons.length
      | some error => .error error))
  /-- It is told what went wrong. -/
  | catalog : EndsWith log shared .ensureCatalog (.catalog (faults log))
  /-- The playground is told the same. -/
  | prepare : EndsWith log shared (.playground .prepare) (.playground (.prepared (faults log)))
  /-- It is told the page of the first lesson, if there is one. -/
  | route : EndsWith log shared (.lesson (.resolveRoute none)) (.lesson (.route
      (match Listing.lessons.fault? log with
      | none => shared.lessons.head?.map fun lesson => .lesson lesson.id
      | some _ => none)))

/-- A call has asked for the lists that it needs, and has ended. -/
structure Trail.Fetches (x : Trail) (s : Session) (turn : Turn) : Prop where
  /-- What was asked for, and what is shared then. -/
  fetched : Listing.fetch turn.time turn.answers turn.call.needs s.shared =
    (x.session.shared, x.log)
  /-- What the call has ended with. -/
  ended : ∃ result, x.progress = .finished result ∧
    turn.call.EndsWith x.log x.session.shared result

/-! ### One call -/

/-- A call that has ended is not carried on. -/
@[simp] theorem carryOn_finished (now : Timestamp) (answers : Answers) (number most : Nat)
    (s : Session) (result : Result) :
    carryOn now answers number most (s, .finished result) = ⟨s, [], .finished result⟩ := by
  -- It does not matter how often it might have waited.
  cases most <;> rfl

/-- A call that waits is answered at once, and carried on from there. -/
@[simp] theorem carryOn_waiting (now : Timestamp) (answers : Answers) (number most : Nat)
    (s : Session) (on : Waiting) :
    carryOn now answers number (most + 1) (s, .waiting on) =
      { carryOn now answers number most (s.answer now answers number on) with
        log := ⟨on.call, answers on.call⟩ ::
          (carryOn now answers number most (s.answer now answers number on)).log } := rfl

/-- A turn as a part of a run: a call, and an answer whenever that may wait for one. -/
def Turn.moments (turn : Turn) (number : Nat) : List Moment :=
  ⟨turn.time, .call turn.call⟩ ::
    List.replicate mostWaits ⟨turn.time, .arrival number turn.answers⟩

/-- To go on with a call is to let the answers to it arrive. -/
theorem session_carryOn (now : Timestamp) (answers : Answers) {number : Nat} (most : Nat)
    {step : Step} (noted : step.1.waiting? number = pending step.2) :
    (carryOn now answers number most step).session =
      step.1.after (List.replicate most ⟨now, .arrival number answers⟩) := by
  -- The induction is on how many answers arrive, each of them one step while the call waits.
  induction most generalizing step with
  | zero => rfl
  | succ most ih =>
    obtain ⟨s, progress⟩ := step
    rw [List.replicate_succ, after_cons]
    cases progress with
    | finished result =>
      -- Once the call has ended no answer is waited for any more.
      have stray : (s.stage ⟨now, .arrival number answers⟩).after = s :=
        (Stage.of_stray rfl noted).1
      have rest := ih noted
      rw [carryOn_finished] at rest ⊢
      rw [stray, rest]
    | waiting on =>
      have waits : s.waiting? number = some on := noted
      have arrived : (s.stage ⟨now, .arrival number answers⟩).after =
          (s.answer now answers number on).1 := by
        simp [stage, Stage.after, Stage.aftermath, step, waits]
      have next : (s.answer now answers number on).1.waiting? number =
          pending (s.answer now answers number on).2 := by
        simp [answer, waiting?, lt_length_of_waiting waits]
      rw [carryOn_waiting, arrived, ih next]

/-- A turn is a part of a run. -/
theorem session_take (s : Session) (turn : Turn) :
    (s.take turn).session = s.after (turn.moments s.calls.length) := by
  -- The call starts as it does in a run, and what follows are its answers.
  have noted : (s.start turn.time turn.call).1.waiting? s.calls.length =
      pending (s.start turn.time turn.call).2 := by
    simp [start, waiting?]
  exact session_carryOn turn.time turn.answers mostWaits noted

/-- A step of the session is one of a call that asks for both lists. -/
inductive Seeks : Call → Step → Snapshot → Progress Catalog.Waiting Catalog.Status → Prop
  /-- The lists are asked for themselves. -/
  | shell (s : Session) (progress : Progress Catalog.Waiting Catalog.Status) :
      Seeks .ensureCatalog (s, progress.map .catalog .catalog) s.shared progress
  /-- The playground asks for them. -/
  | playground (s : Session) (page : Playground) (shared : Snapshot)
      (progress : Progress Catalog.Waiting Catalog.Status) :
      Seeks (.playground .prepare) (s.withPlayground (page.goOnPreparing shared progress)) shared
        progress

end Session

namespace Catalog

/-- After the answer about the lessons the examples come next. -/
theorem resume_lessons (now : Timestamp) (answers : Answers) (s : Snapshot) :
    resume now answers s .lessons =
      (Listing.lessons.learn now answers s,
        goOn (Listing.lessons.shown? [Listing.lessons.inquiry answers])
          (Listing.lessons.learn now answers s)) := by
  -- The answer is a list or an error, and both go on to the examples.
  rw [Listing.shown?, Listing.fault?_inquiry]
  simp only [resume, takeLessons, Listing.learn, Listing.answer]
  cases answers .lessons <;> rfl

/-- The answer about the examples is the last. -/
theorem resume_examples (now : Timestamp) (answers : Answers) (s : Snapshot)
    (lessonsError : Option String) :
    resume now answers s (.examples lessonsError) =
      (Listing.examples.learn now answers s, .finished
        { lessonsError
          examplesError := Listing.examples.shown? [Listing.examples.inquiry answers] }) := by
  -- The answer is a list or an error, and both end the call.
  rw [Listing.shown?, Listing.fault?_inquiry]
  simp only [resume, Listing.learn, Listing.answer]
  cases answers .examples <;> rfl

end Catalog

/-- The order tells the same first lesson as the lessons do. -/
theorem Snapshot.KeepsOrder.firstRoute_eq {s : Snapshot} (keeps : s.KeepsOrder) :
    LessonPage.firstRoute s = s.lessons.head?.map fun lesson => .lesson lesson.id := by
  -- The order is the list of the ids.
  rw [LessonPage.firstRoute, firstLesson, keeps, List.head?_map, Option.map_map]
  rfl

namespace Session

namespace Seeks

variable {call : Call} {step : Step} {shared : Snapshot}

/-- Once it is known what went wrong with the lists, the call has ended with that. -/
theorem ended {log : List Inquiry} (seeks : Seeks call step shared (.finished (faults log))) :
    ∃ s result, step = (s, .finished result) ∧ s.shared = shared ∧
      ∀ later, call.EndsWith log later result := by
  -- Both calls wrap the end of the lists in a result of their own.
  cases seeks with
  | shell s => exact ⟨s, _, rfl, rfl, fun _ => .catalog⟩
  | playground s page => exact ⟨_, _, rfl, rfl, fun _ => .prepare⟩

/-- As long as a list is waited for, the call waits for it, and goes on as the lists do. -/
theorem waits {on : Catalog.Waiting} (seeks : Seeks call step shared (.waiting on)) :
    ∃ s wrapped, step = (s, .waiting wrapped) ∧ wrapped.call = on.call ∧ ∀ now answers number,
      Seeks call (s.answer now answers number wrapped) (Catalog.resume now answers shared on).1
        (Catalog.resume now answers shared on).2 := by
  -- Both calls wrap what the lists wait for, and go on as those do.
  cases seeks with
  | shell s =>
    exact ⟨s, .catalog on, rfl, rfl, fun _ _ _ => .shell { s with shared := _, calls := _ } _⟩
  | playground s page =>
    exact ⟨_, .playground (.catalog on), rfl, rfl, fun _ _ _ =>
      .playground { s with calls := _ } page _ _⟩

/-- Once the lessons are settled, the examples are fetched if need be, and the call ends. -/
theorem of_goOn {lessonsError : Option String} (log : List Inquiry)
    (seeks : Seeks call step shared (Catalog.goOn lessonsError shared))
    (told : lessonsError = Listing.lessons.shown? log)
    (untold : Listing.examples.shown? log = none) (now : Timestamp) (answers : Answers)
    (number most : Nat) :
    let x := carryOn now answers number (most + 1) step
    Listing.fetch now answers [.examples] shared = (x.session.shared, x.log) ∧
      ∃ result, x.progress = .finished result ∧
        call.EndsWith (log ++ x.log) x.session.shared result := by
  by_cases unknown : Listing.examples.known shared = []
  · -- What went wrong with the lessons is kept until the examples are settled as well.
    have asks : Catalog.goOn lessonsError shared = .waiting (.examples lessonsError) :=
      if_pos (List.isEmpty_iff.mpr unknown)
    obtain ⟨s, wrapped, rfl, asked, next⟩ := (asks ▸ seeks).waits
    have next := next now answers number
    have heard := Listing.inquiry_of_call (l := .examples) asked answers
    -- The answer about the examples is the last.
    have status : Catalog.Status.mk lessonsError
        (Listing.examples.shown? [Listing.examples.inquiry answers]) =
        faults (log ++ [Listing.examples.inquiry answers]) := by
      simp [faults, Listing.shown?_append, Listing.shown?_inquiry_of_ne, told, untold]
    rw [Catalog.resume_examples, status] at next
    obtain ⟨t, result, gone, same, ends⟩ := next.ended
    simp only [carryOn_waiting, gone, carryOn_finished, heard, same]
    exact ⟨Listing.fetch_of_unknown unknown, result, rfl, ends _⟩
  · have status : Catalog.goOn lessonsError shared = .finished (faults log) := by
      have known : Catalog.goOn lessonsError shared = .finished { lessonsError } :=
        if_neg (mt List.isEmpty_iff.mp unknown)
      rw [known]
      simp [faults, told, untold]
    obtain ⟨t, result, rfl, same, ends⟩ := (status ▸ seeks).ended
    simp only [carryOn_finished, same, List.append_nil]
    exact ⟨Listing.fetch_of_known unknown, result, rfl, ends _⟩

/-- The lessons are fetched if need be, then the examples, and the call ends. -/
theorem of_start (seeks : Seeks call step shared (Catalog.start shared)) (now : Timestamp)
    (answers : Answers) (number most : Nat) :
    let x := carryOn now answers number (most + 2) step
    Listing.fetch now answers [.lessons, .examples] shared = (x.session.shared, x.log) ∧
      ∃ result, x.progress = .finished result ∧ call.EndsWith x.log x.session.shared result := by
  -- By whether there are lessons; either way the examples come next.
  by_cases unknown : Listing.lessons.known shared = []
  · have asks : Catalog.start shared = .waiting .lessons :=
      if_pos (List.isEmpty_iff.mpr unknown)
    obtain ⟨s, wrapped, rfl, asked, next⟩ := (asks ▸ seeks).waits
    have next := next now answers number
    have heard := Listing.inquiry_of_call (l := .lessons) asked answers
    -- Whatever the answer is, the call goes on to the examples.
    rw [Catalog.resume_lessons] at next
    obtain ⟨fetched, ends⟩ := next.of_goOn [Listing.lessons.inquiry answers] rfl
      (Listing.shown?_inquiry_of_ne (by decide) answers) now answers number most
    simp only [carryOn_waiting, heard]
    exact ⟨by rw [Listing.fetch_of_unknown unknown, fetched], ends⟩
  · have known : Catalog.start shared = Catalog.goOn none shared :=
      if_neg (mt List.isEmpty_iff.mp unknown)
    rw [known] at seeks
    obtain ⟨fetched, ends⟩ := seeks.of_goOn [] rfl rfl now answers number (most + 1)
    exact ⟨by rw [Listing.fetch_of_known unknown, fetched], ends⟩

end Seeks

/-- A call that needs the lessons alone asks for them if need be, and ends. -/
theorem fetches_of_lessons {s : Session} {turn : Turn} (needs : turn.call.needs = [.lessons])
    (on : Waiting) (asks : on.call = .lessons)
    (unknown : Listing.lessons.known s.shared = [] →
      s.begin turn.time turn.call = (s, .waiting on))
    (known : Listing.lessons.known s.shared ≠ [] → ∃ result,
      s.begin turn.time turn.call = (s, .finished result) ∧ turn.call.EndsWith [] s.shared result)
    (goesOn : ∀ t : Session, t.shared = s.shared → ∃ u result,
      t.goOn turn.time turn.answers on = (u, .finished result) ∧
      u.shared = Listing.lessons.learn turn.time turn.answers s.shared ∧
      turn.call.EndsWith [Listing.lessons.inquiry turn.answers] u.shared result) :
    (s.take turn).Fetches s turn := by
  -- The lessons are known and the call ends at once, or they are asked for and the one answer ends
  -- it.
  by_cases none : Listing.lessons.known s.shared = []
  · have heard := Listing.inquiry_of_call (l := .lessons) asks turn.answers
    obtain ⟨u, result, gone, same, ends⟩ :=
      goesOn { s with calls := s.calls ++ [pending (.waiting on)] } rfl
    simp only [take, start, unknown none, mostWaits, carryOn_waiting, answer, gone,
      carryOn_finished, heard]
    refine ⟨?_, result, rfl, ends⟩
    rw [needs, Listing.fetch_of_unknown none, ← same]
    rfl
  · obtain ⟨result, begun, ends⟩ := known none
    simp only [take, start, begun, carryOn_finished]
    refine ⟨?_, result, rfl, ends⟩
    rw [needs, Listing.fetch_of_known none]
    rfl

/-- To have the lessons at hand takes them if need be. -/
theorem fetches_ensureLessons (s : Session) (now : Timestamp) (answers : Answers) :
    (s.take ⟨now, .ensureLessons, answers⟩).Fetches s ⟨now, .ensureLessons, answers⟩ := by
  -- The lessons are at hand, or they are asked for and the answer is taken.
  refine fetches_of_lessons rfl .lessons rfl (fun unknown => ?_) (fun known => ?_) fun t same => ?_
  · exact if_pos (List.isEmpty_iff.mpr unknown)
  · exact ⟨_, if_neg (mt List.isEmpty_iff.mp known), .lessons⟩
  · have ends : Call.EndsWith [Listing.lessons.inquiry answers]
        (Listing.lessons.learn now answers s.shared) .ensureLessons _ := .lessons
    -- Whether the lessons are told decides what is shared and what the call ends with.
    rw [Listing.fault?_inquiry] at ends
    simp only [goOn, Catalog.takeLessons, Listing.learn, Listing.answer, same] at ends ⊢
    cases told : answers .lessons with
    | ok lessons =>
      rw [told] at ends
      exact ⟨_, _, rfl, rfl, ends⟩
    | error error =>
      rw [told] at ends
      exact ⟨_, _, rfl, same, same ▸ ends⟩

/-- To find the page for a path that names no lesson takes the lessons if need be. -/
theorem fetches_resolveRoute {s : Session} (keeps : s.shared.KeepsOrder) (now : Timestamp)
    (answers : Answers) :
    (s.take ⟨now, .lesson (.resolveRoute none), answers⟩).Fetches s
      ⟨now, .lesson (.resolveRoute none), answers⟩ := by
  -- Without lessons the call waits for them; in any case it ends with the route to the first of
  -- those that are there by then.
  refine fetches_of_lessons rfl (.lesson .route) rfl (fun unknown => ?_) (fun known => ?_)
    fun t same => ?_
  · have waits : s.lesson.start now s.shared (.resolveRoute none) =
        { page := s.lesson, shared := s.shared, progress := .waiting .route } :=
      if_pos (List.isEmpty_iff.mpr unknown)
    rw [begin, waits]
    rfl
  · have finds : s.lesson.start now s.shared (.resolveRoute none) =
        { page := s.lesson, shared := s.shared, progress := .finished (.route
          (s.shared.lessons.head?.map fun lesson => .lesson lesson.id)) } :=
      keeps.firstRoute_eq ▸ if_neg (mt List.isEmpty_iff.mp known)
    rw [begin, finds]
    exact ⟨_, rfl, .route⟩
  · have ends : Call.EndsWith [Listing.lessons.inquiry answers]
        (Listing.lessons.learn now answers s.shared) (.lesson (.resolveRoute none)) _ := .route
    have learnt := Listing.keepsOrder_learn .lessons now answers keeps
    rw [Listing.fault?_inquiry] at ends
    simp only [goOn, withLesson, LessonPage.resume, Catalog.takeLessons, Listing.learn,
      Listing.answer, same] at ends learnt ⊢
    cases told : answers .lessons with
    | ok lessons =>
      rw [told] at ends learnt
      simp only [← learnt.firstRoute_eq] at ends
      exact ⟨_, _, rfl, rfl, ends⟩
    | error error =>
      rw [told] at ends
      exact ⟨_, _, rfl, rfl, ends⟩

/-- To have both lists at hand takes those that are needed. -/
theorem fetches_ensureCatalog (s : Session) (now : Timestamp) (answers : Answers) :
    (s.take ⟨now, .ensureCatalog, answers⟩).Fetches s ⟨now, .ensureCatalog, answers⟩ := by
  -- What the call does is what the lists do.
  have seeks : Seeks .ensureCatalog (s.start now .ensureCatalog) s.shared
      (Catalog.start s.shared) :=
    .shell { s with calls := _ } _
  obtain ⟨fetched, ended⟩ := seeks.of_start now answers s.calls.length 1
  exact ⟨fetched, ended⟩

/-- To prepare the playground takes the same lists. -/
theorem fetches_prepare (s : Session) (now : Timestamp) (answers : Answers) :
    (s.take ⟨now, .playground .prepare, answers⟩).Fetches s
      ⟨now, .playground .prepare, answers⟩ := by
  -- What the call does is what the lists do, before the example is chosen.
  have seeks : Seeks (.playground .prepare) (s.start now (.playground .prepare)) s.shared
      (Catalog.start s.shared) :=
    .playground { s with calls := _ } s.playground s.shared _
  obtain ⟨fetched, ended⟩ := seeks.of_start now answers s.calls.length 1
  exact ⟨fetched, ended⟩

/-- A call that needs lists asks for those that are needed, and ends. -/
theorem take_fetches {s : Session} (keeps : s.shared.KeepsOrder) {turn : Turn}
    (forLists : turn.call.needs ≠ []) : (s.take turn).Fetches s turn := by
  obtain ⟨now, call, answers⟩ := turn
  -- All calls but four need no list.
  cases call with
  | ensureLessons => exact fetches_ensureLessons s now answers
  | ensureCatalog => exact fetches_ensureCatalog s now answers
  | lesson call =>
    cases call with
    | resolveRoute requested =>
      cases requested with
      | none => exact fetches_resolveRoute keeps now answers
      | some id => exact absurd rfl forLists
    | load | run | press => exact absurd rfl forLists
  | playground call =>
    cases call with
    | prepare => exact fetches_prepare s now answers
    | compile | run => exact absurd rfl forLists

/-! ### Calls one after the other -/

/-- No call needs a list twice. -/
theorem Call.needs_nodup (call : Call) : call.needs.Nodup := by
  -- The lists that each kind of call needs are looked through.
  unfold needs
  split <;> decide

section Fetches

variable {x : Trail} {s : Session} {turn : Turn}

/-- Just those lists are asked for that have nothing in them before. -/
theorem Trail.Fetches.calls_eq (fetches : x.Fetches s turn) :
    x.log.map (·.call) =
      (turn.call.needs.filter fun l => (l.known s.shared).isEmpty).map (·.call) := by
  -- The trail is what fetching those lists leaves.
  rw [← Listing.calls_fetch turn.time turn.answers turn.call.needs_nodup, fetches.fetched]

/-- A list is then the first filled one of what it was and of all that was told of it. -/
theorem Trail.Fetches.known_eq (fetches : x.Fetches s turn) (l : Listing) :
    l.known x.session.shared = firstFilled (l.known s.shared :: x.log.filterMap l.told?) := by
  -- The trail is what fetching those lists leaves.
  have known := Listing.known_fetch turn.time turn.answers turn.call.needs s.shared l
  rwa [fetches.fetched] at known

/-- The order stays that of the lessons. -/
theorem Trail.Fetches.keepsOrder (fetches : x.Fetches s turn) (keeps : s.shared.KeepsOrder) :
    x.session.shared.KeepsOrder := by
  -- The trail is what fetching those lists leaves.
  have kept := Listing.keepsOrder_fetch turn.time turn.answers turn.call.needs keeps
  rwa [fetches.fetched] at kept

end Fetches

section Turns

variable {s : Session} {turns : List Turn} (keeps : s.shared.KeepsOrder)
  (forLists : ∀ turn ∈ turns, turn.call.needs ≠ [])

include keeps forLists

/-- The order is that of the lessons after any calls that need lists. -/
theorem keepsOrder_afterTurns : (s.afterTurns turns).shared.KeepsOrder := by
  -- Each call asks for its lists only, and no list parts the order from the lessons.
  induction turns generalizing s with
  | nil => exact keeps
  | cons turn turns ih =>
    obtain ⟨needs, forLists⟩ := List.forall_mem_cons.mp forLists
    exact ih ((take_fetches keeps needs).keepsOrder keeps) forLists

/-- A list is the first filled one of what it was and of all that was told of it since. -/
theorem known_afterTurns (l : Listing) :
    l.known (s.afterTurns turns).shared =
      firstFilled (l.known s.shared :: (s.logOf turns).filterMap l.told?) := by
  -- By induction on the turns, from the first on.
  induction turns generalizing s with
  | nil => exact (firstFilled_singleton _).symm
  | cons turn turns ih =>
    obtain ⟨needs, forLists⟩ := List.forall_mem_cons.mp forLists
    have fetches := take_fetches keeps needs
    -- What the first call leaves stands for all that was told until then.
    calc l.known ((s.take turn).session.afterTurns turns).shared
        = firstFilled (l.known (s.take turn).session.shared ::
            ((s.take turn).session.logOf turns).filterMap l.told?) :=
          ih (fetches.keepsOrder keeps) forLists
      _ = firstFilled (l.known s.shared :: (s.logOf (turn :: turns)).filterMap l.told?) := by
          rw [fetches.known_eq, firstFilled_cons_firstFilled, logOf, List.filterMap_append,
            List.cons_append]

/-- A list that has something in it is never asked for again. -/
theorem call_ne_of_known {l : Listing} (known : l.known s.shared ≠ []) :
    ∀ i ∈ s.logOf turns, i.call ≠ l.call := by
  -- The list is carried along the induction, for it stays as it is from call to call.
  induction turns generalizing s with
  | nil => simp [logOf]
  | cons turn turns ih =>
    obtain ⟨needs, forLists⟩ := List.forall_mem_cons.mp forLists
    have fetches := take_fetches keeps needs
    have kept : l.known (s.take turn).session.shared = l.known s.shared := by
      rw [fetches.known_eq, firstFilled_cons known]
    rw [logOf, List.forall_mem_append]
    refine ⟨fun i asked same => ?_, ih (fetches.keepsOrder keeps) forLists (kept ▸ known)⟩
    -- What this call asks for has nothing in it.
    have asked : i.call ∈ (turn.call.needs.filter fun l =>
        (l.known s.shared).isEmpty).map (·.call) := fetches.calls_eq ▸ List.mem_map_of_mem asked
    simp only [List.mem_map, List.mem_filter, List.isEmpty_iff] at asked
    obtain ⟨other, ⟨-, unknown⟩, asks⟩ := asked
    obtain rfl := Listing.call_inj.mp (asks.trans same)
    exact known unknown

end Turns

/-- In a new session calls are made that need the lessons, or both lists, one after the other and
whatever the backend answers.  Each of them is a part of a run of the session and ends there.  It
asks the backend for just those of its lists that have nothing in them when it comes to them, the
examples even if the lessons could not be fetched.  It ends with what went wrong with the lists that
it asked for itself, with the number of the lessons or with the page of the first of them.  At any
time a list is the first one told of it that has something in it, and from then on it is not asked
for any more. -/
theorem lists_are_fetched_when_needed {s : Session} (new : s.shared = {}) {turns : List Turn}
    (forLists : ∀ turn ∈ turns, turn.call.needs ≠ []) :
    (∀ earlier turn later, turns = earlier ++ turn :: later →
      let t := s.afterTurns earlier
      let x := t.take turn
      x.session = t.after (turn.moments t.calls.length) ∧
        x.log.map (·.call) =
          (turn.call.needs.filter fun l => (l.known t.shared).isEmpty).map (·.call) ∧
        x.Fetches t turn) ∧
    ∀ earlier later, turns = earlier ++ later → ∀ l : Listing,
      let t := s.afterTurns earlier
      l.known t.shared = firstFilled ((s.logOf earlier).filterMap l.told?) ∧
        (l.known t.shared ≠ [] → ∀ i ∈ t.logOf later, i.call ≠ l.call) := by
  -- A turn fetches what it needs from wherever it starts, and the order is kept up to there.
  have keeps : s.shared.KeepsOrder := by rw [new]; rfl
  refine ⟨?each, ?all⟩
  case each =>
    rintro earlier turn later rfl
    obtain ⟨before, needs, -⟩ := List.forall_mem_append.mp forLists |>.imp_right
      List.forall_mem_cons.mp
    have fetches := take_fetches (keepsOrder_afterTurns keeps before) needs
    exact ⟨session_take _ turn, fetches.calls_eq, fetches⟩
  case all =>
    rintro earlier later rfl l
    obtain ⟨before, after⟩ := List.forall_mem_append.mp forLists
    refine ⟨?_, call_ne_of_known (keepsOrder_afterTurns keeps before) after⟩
    -- A new session knows nothing, so that only what is told counts.
    have nothing : l.known s.shared = [] := by rw [new]; cases l <;> rfl
    rw [known_afterTurns keeps before, nothing]
    rfl

/-- The lesson that is told when the lessons can be fetched. -/
def opening : Lesson :=
  { id := ⟨"opening"⟩, title := "Opening" }

/-- The example that is told when the examples can be fetched. -/
def bracket : Example :=
  { id := ⟨"bracket"⟩, name := "Bracket" }

/-- A backend that tells just one of the lists. -/
def telling : Listing → Answers
  | .lessons, .lessons => .ok [opening]
  | .examples, .examples => .ok [bracket]
  | _, _ => .error (.unreachable "refused")

/-- The lessons cannot be fetched at first. -/
def late : List Turn :=
  [⟨⟨1⟩, .playground .prepare, telling .examples⟩,
    ⟨⟨2⟩, .lesson (.resolveRoute none), telling .lessons⟩,
    ⟨⟨3⟩, .ensureCatalog, .failure (.unreachable "refused")⟩]

/-- The examples are fetched all the same, and the lessons by the next call.  That leaves nothing
for a later one to ask for. -/
theorem late_lessons_are_fetched :
    let s := ({} : Session).afterTurns late
    (∀ turn ∈ late, turn.call.needs ≠ []) ∧
    Listing.lessons.known s.shared = [opening] ∧ Listing.examples.known s.shared = [bracket] ∧
    (({} : Session).logOf late).map (·.call) = [.lessons, .examples, .lessons] := by
  -- The theorem tells both lists after all turns; the log is computed.
  have forLists : ∀ turn ∈ late, turn.call.needs ≠ [] := by decide
  obtain ⟨-, all⟩ := lists_are_fetched_when_needed (s := {}) rfl forLists
  have known (l : Listing) := (all late [] (List.append_nil late).symm l).1
  exact ⟨forLists, known .lessons, known .examples, rfl⟩

end Session

end SelectorTutorial
