import SelectorTutorial.Proofs.CommandLine.Parts

/-! What a lesson asks for when it is shown from the command line, part by part. -/

namespace SelectorTutorial

open Exchanged

/-- To ask for one lesson in full. -/
def BackendCall.isLesson : BackendCall → Bool
  | lesson _ => true
  | _ => false

/-- What is asked for to show a lesson, part by part. -/
structure LessonLog where
  /-- For the lists. -/
  lists : List Exchanged := []
  /-- For the lessons, to find the first of them. -/
  routed : List Exchanged := []
  /-- To load the lesson. -/
  first : List Exchanged := []
  /-- To load the first lesson in its place. -/
  second : List Exchanged := []
  /-- To run the selector. -/
  selected : List Exchanged := []
  /-- For the meshes. -/
  fetched : List Exchanged := []

namespace LessonLog

/-- All of it, in the order in which it is asked for. -/
def all (log : LessonLog) : List Exchanged :=
  log.lists ++ log.routed ++ log.first ++ log.second ++ log.selected ++ log.fetched

/-- Each part is what it is for, and there is not more of it than is needed. -/
structure IsOrdered (log : LessonLog) : Prop where
  /-- The lessons at most once, and then the examples at most once. -/
  lists : (calls log.lists).Sublist [.lessons, .examples]
  /-- To find the first lesson at most the lessons are asked for. -/
  routed : (calls log.routed).Sublist [.lessons]
  /-- After the lists the lessons are asked for once more at most. -/
  again : (calls (log.routed ++ log.first ++ log.second)).count .lessons ≤ 1
  /-- Two lessons at most are asked for. -/
  details : (calls (log.first ++ log.second)).countP BackendCall.isLesson ≤ 2
  /-- The selector is run once at most. -/
  selected : AtMost 1 BackendCall.IsSelect log.selected
  /-- Two meshes at most are fetched. -/
  fetched : AtMost 2 BackendCall.IsAsset log.fetched

end LessonLog

namespace Commands

open Script Session.Completes

/-- The lesson to load: the one that was named, or else the first one, if there is one.  The lessons
are asked for only if none are known. -/
inductive Chooses (w : World) (earlier : List Request) (s : Session) :
    Option String → List Exchanged → Session → Option Lesson.Id → Prop
  /-- A lesson was named. -/
  | named {id : String} : Chooses w earlier s (some id) [] s (some ⟨id⟩)
  /-- None was named. -/
  | first {routed : List Exchanged} {t : Session} {result : Session.Result}
      (routes : Runs w earlier (perform s (.lesson (.resolveRoute none))) routed (.ok (t, result)))
      (unknown : routed = [] ∨ s.shared.lessons = [])
      (isFirst : ∀ id, result.target = some id → t.shared.lessons.head?.map (·.id) = some id) :
      Chooses w earlier s none routed t result.target

/-- A lesson is loaded, or the first one in place of a lesson that is not there. -/
inductive Opens (w : World) (earlier : List Request) (s : Session) (id : Lesson.Id) :
    List Exchanged → List Exchanged → Session → Outcome → Prop
  /-- The load does not lead elsewhere. -/
  | direct {first : List Exchanged} {t : Session} {result : Session.Result}
      (loads : Runs w earlier (perform s (.lesson (.load id))) first (.ok (t, result)))
      (asks : LoadAsks w s.shared.lessons id first) (stays : result.target = none) :
      Opens w earlier s id first [] t result.outcome
  /-- The lesson is not there, and the first one is loaded. -/
  | redirected {fetch : Exchanged} {rest second : List Exchanged} {t u : Session}
      {result last : Session.Result} {target : Lesson.Id} {body : Option Bytes}
      (loads : Runs w earlier (perform s (.lesson (.load id))) (fetch :: rest) (.ok (t, result)))
      (asks : LoadAsks w s.shared.lessons id (fetch :: rest))
      (missing : fetch.reply = .response 404 body) (leads : result.target = some target)
      (isFirst : t.shared.lessons.head?.map (·.id) = some target)
      (reloads : Runs w (earlier ++ requests (fetch :: rest)) (perform t (.lesson (.load target)))
        second (.ok (u, last)))
      (asksAgain : LoadAsks w t.shared.lessons target second) :
      Opens w earlier s id (fetch :: rest) second u last.outcome

/-- The session in which the selector is typed, if there is one. -/
def typedSession (options : LessonOptions) (s : Session) : Session :=
  match options.select with
  | some selection => { s with lesson := s.lesson.setSelection selection }
  | none => s

/-- How far a lesson gets, what is asked for until then, and how the run ends. -/
inductive LessonCourse (w : World) (options : LessonOptions) :
    LessonLog → Except String Unit → Prop
  /-- There is no lesson to load. -/
  | unrouted {lists routed : List Exchanged} {s t : Session} {result : Session.Result}
      {ending : Except String Unit}
      (listed : Runs w [] (perform {} .ensureCatalog) lists (.ok (s, result)))
      (chooses : Chooses w (requests lists) s options.id routed t none) (fails : Fails ending) :
      LessonCourse w options { lists, routed } ending
  /-- The lesson cannot be loaded. -/
  | unloaded {lists routed first second : List Exchanged} {s t u : Session}
      {result : Session.Result} {id : Lesson.Id} {message : String} {ending : Except String Unit}
      (listed : Runs w [] (perform {} .ensureCatalog) lists (.ok (s, result)))
      (chooses : Chooses w (requests lists) s options.id routed t (some id))
      (opens : Opens w (requests (lists ++ routed)) t id first second u (.failed message))
      (fails : Fails ending) :
      LessonCourse w options { lists, routed, first, second } ending
  /-- The selector is not to be run. -/
  | unwanted {lists routed first second fetched : List Exchanged} {s t u : Session}
      {result : Session.Result} {id : Lesson.Id}
      (listed : Runs w [] (perform {} .ensureCatalog) lists (.ok (s, result)))
      (chooses : Chooses w (requests lists) s options.id routed t (some id))
      (opens : Opens w (requests (lists ++ routed)) t id first second u .applied)
      (unwanted : options.run = false ∧ options.select = none) :
      LessonCourse w options { lists, routed, first, second, fetched } (.ok ())
  /-- The selector fails. -/
  | unselected {lists routed first second selected : List Exchanged} {s t u v : Session}
      {result selecting : Session.Result} {id : Lesson.Id} {message : String}
      {ending : Except String Unit}
      (listed : Runs w [] (perform {} .ensureCatalog) lists (.ok (s, result)))
      (chooses : Chooses w (requests lists) s options.id routed t (some id))
      (opens : Opens w (requests (lists ++ routed)) t id first second u .applied)
      (wanted : options.run = true ∨ options.select.isSome)
      (selects : Runs w (requests (lists ++ routed ++ first ++ second))
        (perform (typedSession options u) (.lesson .run)) selected (.ok (v, selecting)))
      (refused : selecting.outcome = .failed message) (fails : Fails ending) :
      LessonCourse w options { lists, routed, first, second, selected } ending
  /-- Whatever there is to draw is drawn. -/
  | drawn {lists routed first second selected fetched : List Exchanged} {s t u v : Session}
      {result selecting : Session.Result} {id : Lesson.Id}
      (listed : Runs w [] (perform {} .ensureCatalog) lists (.ok (s, result)))
      (chooses : Chooses w (requests lists) s options.id routed t (some id))
      (opens : Opens w (requests (lists ++ routed)) t id first second u .applied)
      (wanted : options.run = true ∨ options.select.isSome)
      (selects : Runs w (requests (lists ++ routed ++ first ++ second))
        (perform (typedSession options u) (.lesson .run)) selected (.ok (v, selecting)))
      (unfailed : ¬ ∃ message, selecting.outcome = .failed message) :
      LessonCourse w options { lists, routed, first, second, selected, fetched } (.ok ())

variable {w : World} {earlier : List Request} {log : List Exchanged} {s t : Session}

/-! ### How often something is asked for -/

/-- One lesson at most is asked for by a load, and the lessons only where none are known. -/
theorem count_of_loadAsks {known : List Lesson} {id : Lesson.Id}
    (asks : LoadAsks w known id log) :
    (calls log).countP BackendCall.isLesson ≤ 1 ∧ (calls log).count .lessons ≤ 1 ∧
      (known ≠ [] → (calls log).count .lessons = 0) := by
  -- No load has more than two requests, and each kind of load has its own.
  cases asks with
  | nothing => simp [calls]
  | lesson asked => simp [calls, asked, BackendCall.isLesson]
  | model asked _ _ compiled =>
    simp [calls, asked, compiled, List.countP_cons, BackendCall.isLesson]
  | lessons asked _ unknown listed =>
    simp [calls, asked, listed, unknown, List.countP_cons, BackendCall.isLesson]

/-- A list that has a first lesson is not empty. -/
theorem lessons_ne_nil_of_head {lessons : List Lesson} {id : Lesson.Id}
    (isFirst : lessons.head?.map (·.id) = some id) : lessons ≠ [] := by
  -- The empty list has no head.
  rintro rfl
  cases isFirst

/-- Two lessons at most are asked for until one is open, and the lessons once at most and only where
none are known. -/
theorem Opens.count {id : Lesson.Id} {first second : List Exchanged} {outcome : Outcome}
    (opens : Opens w earlier s id first second t outcome) :
    (calls (first ++ second)).countP BackendCall.isLesson ≤ 2 ∧
      (calls (first ++ second)).count .lessons ≤ 1 ∧
      (s.shared.lessons ≠ [] → (calls (first ++ second)).count .lessons = 0) := by
  -- The calls of one load are counted already, so there is one load to count, or two.
  cases opens with
  | direct _ asks =>
    obtain ⟨details, again, known⟩ := count_of_loadAsks asks
    rw [List.append_nil]
    exact ⟨by omega, again, known⟩
  | redirected loads asks missing leads isFirst _ asksAgain =>
    -- Where there is a first lesson to go to, the lessons are known by then.
    obtain ⟨details, again, known⟩ := count_of_loadAsks asks
    obtain ⟨details', -, known'⟩ := count_of_loadAsks asksAgain
    have none := known' (lessons_ne_nil_of_head isFirst)
    rw [calls_append, List.countP_append, List.count_append, none, Nat.add_zero]
    exact ⟨by omega, again, known⟩

/-- Once the lists were asked for, the lessons are asked for once more at most. -/
theorem count_lessons_le {named : Option String} {u : Session} {id : Lesson.Id}
    {routed first second : List Exchanged} {earlier' : List Request} {outcome : Outcome}
    (chooses : Chooses w earlier s named routed t (some id))
    (opens : Opens w earlier' t id first second u outcome)
    (listed : (calls routed).Sublist [.lessons]) :
    (calls (routed ++ first ++ second)).count .lessons ≤ 1 := by
  obtain ⟨-, once, known⟩ := opens.count
  rw [List.append_assoc, calls_append, List.count_append]
  -- If a first lesson was found, then the lessons are known, and no load asks for them.
  generalize found : some id = target at chooses
  cases chooses with
  | named => simpa [calls] using once
  | first _ _ isFirst =>
    have none := known (lessons_ne_nil_of_head (isFirst id found.symm))
    have routedOnce := listed.count_le BackendCall.lessons
    rw [none]
    exact routedOnce

/-! ### The parts of the program -/

/-- A program goes on with the lesson that was named or with the first one, and fails for want of
one. -/
theorem of_lessonId {named : Option String} {ending : Except String (Session × Lesson.Id)}
    (runs : Runs w earlier (lessonId s named) log ending)
    (taught : s.shared.Teaches s.shared.lessons) :
    ∃ t found, Chooses w earlier s named log t found ∧ (calls log).Sublist [.lessons] ∧
      t.shared.Teaches t.shared.lessons ∧
      ((∃ id, found = some id ∧ ending = .ok (t, id)) ∨
        (found = none ∧ ∃ message, ending = .error message)) := by
  -- A lesson that is named needs no call, and otherwise the route is resolved.
  cases named with
  | some id =>
    cases runs
    exact ⟨s, some ⟨id⟩, .named, List.nil_sublist _, taught, .inl ⟨_, rfl, rfl⟩⟩
  | none =>
    obtain ⟨t, result, routed, rest, routes, goesOn, rfl⟩ := runs.of_perform_bind
    have completes := routes.completes
    obtain ⟨listed, first⟩ := completes.of_resolveRoute
    have taught' := completes.teaches_of_begin taught
    have unknown : routed = [] ∨ s.shared.lessons = [] := by
      -- Only the lessons are asked for here, and not if they are known.
      by_cases known : s.shared.lessons = []
      · exact .inr known
      · have others := (completes.known_of_begin known).1
        refine .inl (List.eq_nil_iff_forall_not_mem.mpr fun e mem => others e mem ?_)
        exact List.mem_singleton.mp (listed.subset (List.mem_map_of_mem mem))
    have chooses : Chooses w earlier s none routed t result.target := by
      refine .first routes unknown fun id found => ?_
      rw [← taught'.firstLesson]
      exact first id found
    -- Either way nothing more is asked for.
    simp only at goesOn
    split at goesOn
    · next id found =>
      cases goesOn
      rw [List.append_nil]
      exact ⟨t, _, chooses, listed, taught', .inl ⟨id, found, rfl⟩⟩
    · next nowhere =>
      cases goesOn
      rw [List.append_nil]
      exact ⟨t, _, chooses, listed, taught', .inr ⟨nowhere, _, rfl⟩⟩

/-- A program goes on once a lesson is loaded, and fails where none can be. -/
theorem of_load {id : Lesson.Id} {ending : Except String Session}
    (runs : Runs w earlier (load s id) log ending)
    (taught : s.shared.Teaches s.shared.lessons) :
    ∃ first second t outcome, log = first ++ second ∧ Opens w earlier s id first second t outcome ∧
      ((outcome = .applied ∧ ending = .ok t) ∨
        ∃ message, outcome = .failed message ∧ ∃ message, ending = .error message) := by
  -- By how the first load ends, and where that leads elsewhere, by how the second one does.
  obtain ⟨t, result, first, rest, loads, goesOn, rfl⟩ := runs.of_perform_bind
  obtain ⟨asks, loaded⟩ := loads.completes.of_load
  have taught' := loads.completes.teaches_of_begin taught
  -- Only a load that leads elsewhere is followed by another one.
  cases loaded with
  | applied =>
    cases goesOn
    exact ⟨first, [], t, _, rfl, .direct loads asks rfl, .inl ⟨rfl, rfl⟩⟩
  | failed =>
    cases goesOn
    exact ⟨first, [], t, _, rfl, .direct loads asks rfl, .inr ⟨_, rfl, _, rfl⟩⟩
  | redirected asked lesson missing isFirst other =>
    subst asked
    obtain ⟨body, missing⟩ := missing
    cases goesOn with
    | print reloading =>
      obtain ⟨u, last, second, rest, reloads, reported, rfl⟩ := reloading.of_perform_bind
      obtain ⟨asksAgain, reloaded⟩ := reloads.completes.of_load
      have opens : Opens w earlier s id _ second u last.outcome :=
        .redirected loads asks missing rfl (by rw [← taught'.firstLesson]; exact isFirst) reloads
          asksAgain
      -- The second load may lead elsewhere as well, which is not followed.
      cases reloaded with
      | applied =>
        cases reported
        exact ⟨_, second, u, _, by rw [List.append_nil], opens, .inl ⟨rfl, rfl⟩⟩
      | failed | redirected =>
        cases reported
        exact ⟨_, second, u, _, by rw [List.append_nil], opens, .inr ⟨_, rfl, _, rfl⟩⟩

/-- A program goes on once the selector was run, and fails where it failed. -/
theorem of_runLesson {ending : Except String Session}
    (runs : Runs w earlier (runLesson true s) log ending) :
    ∃ t result, Runs w earlier (perform s (.lesson .run)) log (.ok (t, result)) ∧
      (((∃ message, result.outcome = .failed message) ∧ ∃ message, ending = .error message) ∨
        (¬ (∃ message, result.outcome = .failed message) ∧ ending = .ok t)) := by
  -- Nothing is asked for after the selector, so the log is that of its run, and the report decides
  -- how the program ends.
  obtain ⟨t, result, selected, rest, selects, reported, rfl⟩ := Runs.of_perform_bind runs
  rcases reported.of_report_bind with ⟨failed, rfl, fails⟩ | ⟨unfailed, said⟩
  · rw [List.append_nil]
    exact ⟨t, result, selects, .inl ⟨failed, fails⟩⟩
  · have ended := said.of_sayAll_bind
    cases ended
    rw [List.append_nil]
    exact ⟨t, result, selects, .inr ⟨unfailed, rfl⟩⟩

/-- A program that shows a lesson runs the selector if that is wanted, and then draws. -/
theorem of_shown {options : LessonOptions} {ending : Except String Unit}
    {text : Session → List String} {scene : Session → Scene}
    (runs : Runs w earlier
      ((runLesson (options.run || options.select.isSome) s).bind fun s =>
        (sayAll (text s)).bind fun _ => draw (scene s)) log ending) :
    (options.run = false ∧ options.select = none ∧ AtMost 2 BackendCall.IsAsset log ∧
      ending = .ok ()) ∨
    ((options.run = true ∨ options.select.isSome) ∧ ∃ t result selected fetched,
      Runs w earlier (perform s (.lesson .run)) selected (.ok (t, result)) ∧
      AtMost 2 BackendCall.IsAsset fetched ∧ log = selected ++ fetched ∧
      (((∃ message, result.outcome = .failed message) ∧ fetched = [] ∧ Fails ending) ∨
        (¬ (∃ message, result.outcome = .failed message) ∧ ending = .ok ()))) := by
  -- The selector is run just if one of the two options says so.
  cases wanted : options.run || options.select.isSome with
  | false =>
    rw [wanted] at runs
    obtain ⟨drawn, ended⟩ := (Runs.of_sayAll_bind runs).of_draw
    simp only [Bool.or_eq_false_iff, Option.isSome_eq_false_iff,
      Option.isNone_iff_eq_none] at wanted
    exact .inl ⟨wanted.1, wanted.2, drawn, ended⟩
  | true =>
    rw [wanted] at runs
    refine .inr ⟨by simpa using wanted, ?_⟩
    rcases Runs.of_bind runs with ⟨message, failed, ends⟩ | ⟨selected, t, fetched, ran, said, rfl⟩
    · obtain ⟨t, result, selects, ⟨refused, -⟩ | ⟨-, ended⟩⟩ := of_runLesson failed
      · exact ⟨t, result, log, [], selects, .nil, by rw [List.append_nil],
          .inl ⟨refused, rfl, message, ends⟩⟩
      · cases ended
    · obtain ⟨t', result, selects, ⟨-, message, ended⟩ | ⟨unfailed, ended⟩⟩ := of_runLesson ran
      · cases ended
      · cases ended
        obtain ⟨drawn, ended⟩ := said.of_sayAll_bind.of_draw
        exact ⟨t, result, selected, fetched, selects, drawn, rfl, .inr ⟨unfailed, ended⟩⟩

/-- A run that comes to a lesson is in order when its last parts are. -/
theorem isOrdered_of_opens {named : Option String} {u : Session} {id : Lesson.Id}
    {earlier' : List Request} {outcome : Outcome} {parts : LessonLog}
    (lists : (calls parts.lists).Sublist [.lessons, .examples])
    (chooses : Chooses w earlier s named parts.routed t (some id))
    (routed : (calls parts.routed).Sublist [.lessons])
    (opens : Opens w earlier' t id parts.first parts.second u outcome)
    (selected : AtMost 1 BackendCall.IsSelect parts.selected)
    (fetched : AtMost 2 BackendCall.IsAsset parts.fetched) : parts.IsOrdered where
  -- The parts bring their own order; what is asked for again is counted over three of them.
  lists := lists
  routed := routed
  again := count_lessons_le chooses opens routed
  details := opens.count.1
  selected := selected
  fetched := fetched

/-- A run of a lesson takes one of its courses. -/
theorem exists_lessonCourse {options : LessonOptions} {ending : Except String Unit}
    (runs : Runs w [] (lesson options) log ending) :
    ∃ parts : LessonLog, parts.all = log ∧ parts.IsOrdered ∧
      LessonCourse w options parts ending := by
  -- The parts of the program are taken off one after another, and each may end it.
  obtain ⟨s, result, lists, rest, listing, opened, rfl⟩ := runs.of_perform_bind
  have listed := listing.completes.of_ensureCatalog
  have taught : s.shared.Teaches s.shared.lessons := listing.completes.teaches_of_begin ⟨rfl, rfl⟩
  rw [List.nil_append] at opened
  rcases Runs.of_bind opened with
    ⟨message, failed, ends⟩ | ⟨routed, ⟨t, id⟩, more, found, goesOn, rfl⟩
  · obtain ⟨t, found, chooses, routed, -, ⟨id, -, ended⟩ | ⟨rfl, -⟩⟩ := of_lessonId failed taught
    · cases ended
    · refine ⟨⟨lists, rest, [], [], [], []⟩, ?_, ?_, ?_⟩
      · simp [LessonLog.all]
      · refine ⟨listed, routed, ?_, Nat.zero_le 2, .nil, .nil⟩
        simpa using routed.count_le BackendCall.lessons
      · exact .unrouted listing chooses ⟨message, ends⟩
  · obtain ⟨t', found, chooses, routedOnce, taught', ⟨id', rfl, ended⟩ | ⟨-, message, ended⟩⟩ :=
      of_lessonId found taught
    · cases ended
      rw [← requests_append] at goesOn
      rcases Runs.of_bind goesOn with
        ⟨message, failed, ends⟩ | ⟨loaded, u, last, loading, shown, rfl⟩
      · obtain ⟨first, second, u, outcome, rfl, opens, ⟨-, ended⟩ | ⟨message', rfl, -⟩⟩ :=
          of_load failed taught'
        · cases ended
        · refine ⟨⟨lists, routed, first, second, [], []⟩, ?_, ?_, ?_⟩
          · simp [LessonLog.all]
          · exact isOrdered_of_opens listed chooses routedOnce opens .nil .nil
          · exact .unloaded listing chooses opens ⟨message, ends⟩
      · obtain ⟨first, second, u, outcome, rfl, opens, ⟨rfl, ended⟩ | ⟨_, -, _, ended⟩⟩ :=
          of_load loading taught'
        · cases ended
          rw [← requests_append, ← List.append_assoc] at shown
          rcases of_shown (s := typedSession options u) shown.of_sayAll_bind with
            ⟨unrun, untyped, drawn, rfl⟩ |
            ⟨wanted, v, selecting, selected, fetched, selects, drawn, rfl, ends⟩
          · refine ⟨⟨lists, routed, first, second, [], last⟩, ?_, ?_, ?_⟩
            · simp [LessonLog.all]
            · exact isOrdered_of_opens listed chooses routedOnce opens .nil drawn
            · exact .unwanted listing chooses opens ⟨unrun, untyped⟩
          · have once := selects.completes.of_lesson_run
            rcases ends with ⟨⟨message, refused⟩, rfl, fails⟩ | ⟨unfailed, rfl⟩
            · refine ⟨⟨lists, routed, first, second, selected, []⟩, ?_, ?_, ?_⟩
              · simp [LessonLog.all]
              · exact isOrdered_of_opens listed chooses routedOnce opens once .nil
              · exact .unselected listing chooses opens wanted selects refused fails
            · refine ⟨⟨lists, routed, first, second, selected, fetched⟩, ?_, ?_, ?_⟩
              · simp [LessonLog.all]
              · exact isOrdered_of_opens listed chooses routedOnce opens once drawn
              · exact .drawn listing chooses opens wanted selects unfailed
        · cases ended
    · cases ended

end Commands

end SelectorTutorial
