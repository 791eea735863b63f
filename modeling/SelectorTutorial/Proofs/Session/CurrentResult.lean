import SelectorTutorial.Proofs.Session.Effect

/-! The result that is shared was selected of the model that its page still shows. -/

namespace SelectorTutorial

namespace Session

/-- The selector in the editor of a page. -/
def selector (s : Session) : Page → String
  | .lesson => s.lesson.selection
  | .playground => s.playground.form.selection

namespace Stage

/-- An errand starts on the page that it belongs to. -/
theorem Starts.page? {g : Stage} {errand : Errand} {number : Nat}
    (starts : g.Starts errand number) : g.event.page? = some errand.page := by
  -- A call waits for something of the page that it was made on.
  obtain ⟨call, on, ticket, called, taken, holds⟩ := id starts
  cases g.course with
  | lists fetches => exact absurd starts fetches.not_starts
  | lessonBegins called' begins takes =>
    obtain ⟨-, next, -, rfl⟩ := takes.waiting taken
    rw [called', LessonPage.Waiting.held?_page holds]
    rfl
  | playgroundBegins called' begins takes =>
    obtain ⟨-, next, -, rfl⟩ := takes.waiting taken
    rw [called', Playground.Waiting.held?_page holds]
    rfl
  | edits other | lessonGoesOn other | playgroundGoesOn other => simp [called] at other

/-- A request to select something is sent when a run starts, and it is about the model of its page
and the selector that stands there, without the blanks around it. -/
theorem sends {g : Stage} {number : Nat} {page : Page} {ticket : Ticket}
    {request : Selection.Request}
    (asked : g.call? = some (number, .waiting (page.selecting ticket request))) :
    g.Starts page.run number ∧ ∃ model filters, g.before.model? page = some model ∧
      Text.trim (g.before.selector page) ≠ "" ∧
      request = .of model.id (Text.trim (g.before.selector page)) filters := by
  -- No later step of a call ever sends such a request.
  cases g.course with
  | lists fetches =>
    have free := (fetches.ticketless _ _ asked).1 _ rfl
    simp at free
  | edits edited =>
    rw [(of_edit edited).2] at asked
    cases asked
  | lessonBegins called begins takes =>
    obtain ⟨rfl, next, waits, same⟩ := takes.waiting asked
    cases page with
    | playground => cases same
    | lesson =>
      cases same
      cases begins with
      | runs _ has typed =>
        cases waits
        exact ⟨⟨_, _, _, called, asked, rfl⟩, _, _, has, typed, rfl⟩
      | routed | asked | loads | skipped | toggled | unbound => cases waits
  | lessonGoesOn arrived waits goesOn takes =>
    obtain ⟨rfl, next, goes, same⟩ := takes.waiting asked
    cases page with
    | playground => cases same
    | lesson =>
      cases same
      cases goesOn <;> cases goes
  | playgroundBegins called begins takes =>
    obtain ⟨rfl, next, waits, same⟩ := takes.waiting asked
    cases page with
    | lesson => cases same
    | playground =>
      cases same
      cases begins with
      | runs has typed =>
        cases waits
        exact ⟨⟨_, _, _, called, asked, rfl⟩, _, _, has, typed, rfl⟩
      | asked | prepared | skipped | unsupported | compiles | unreadable => cases waits
  | playgroundGoesOn arrived waits goesOn takes =>
    obtain ⟨rfl, next, goes, same⟩ := takes.waiting asked
    cases page with
    | lesson => cases same
    | playground =>
      cases same
      cases goesOn <;> cases goes

/-- A request to select something is sent when a run starts, and names the model of its page. -/
theorem asks {g : Stage} {number : Nat} {page : Page} {ticket : Ticket}
    {request : Selection.Request}
    (asked : g.call? = some (number, .waiting (page.selecting ticket request))) :
    g.Starts page.run number ∧ ∃ model, g.before.model? page = some model ∧
      request.model = model.id := by
  -- Only the start of a run asks for a selection.
  obtain ⟨starts, model, filters, has, -, rfl⟩ := sends asked
  exact ⟨starts, model, has, rfl⟩

/-- A page keeps its model until another one is swapped in. -/
theorem model?_after {g : Stage} (unmeddled : g.event.meddles = false) {page : Page}
    (unswapped : ∀ number, ¬ g.Ends page.swap number .applied) :
    g.after.model? page = g.before.model? page := by
  -- By what the stage does to the models.
  cases effect unmeddled with
  | keeps models | clears _ models | selects _ models => exact models page
  | @swaps swapped number ends others =>
    -- What is swapped belongs to the other page.
    refine others page fun same => ?_
    subst same
    exact unswapped number ends

end Stage

/-- What is sent in order to select something was sent at some stage of the run. -/
theorem exists_asks {s : Session} (idle : s.calls = []) {run : List Moment} {number : Nat}
    {page : Page} {ticket : Ticket} {request : Selection.Request}
    (waits : (s.after run).waiting? number = some (page.selecting ticket request)) :
    ∃ earlier first later, s.stages run = earlier ++ first :: later ∧
      first.call? = some (number, .waiting (page.selecting ticket request)) := by
  rcases exists_sent waits with ⟨waits, -⟩ | ⟨earlier, first, later, split, asked, -⟩
  · -- Nothing waited at first.
    simp [waiting?, idle] at waits
  · exact ⟨earlier, first, later, split, asked⟩

/-- As long as its ticket counts, a request is one about the model that its page shows. -/
theorem model?_of_isCurrent {s : Session} (idle : s.calls = []) {run : List Moment}
    (few : callsMade run < UInt64.size) (unmeddled : ∀ m ∈ run, m.event.meddles = false)
    {number : Nat} {page : Page} {ticket : Ticket} {request : Selection.Request}
    (waits : (s.after run).waiting? number = some (page.selecting ticket request))
    (current : ((s.after run).tickets page).isCurrent ticket = true) :
    ∃ model, (s.after run).model? page = some model ∧ request.model = model.id := by
  -- The request named the model shown when it was sent, and none was swapped in since.
  obtain ⟨earlier, first, later, split, asked⟩ := exists_asks idle waits
  obtain ⟨starts, model, shows, about⟩ := Stage.asks asked
  refine ⟨model, ?_, about⟩
  -- The ticket is the one that was the newest when the request was sent.
  have newest : ticket = ⟨page.run.lane, first.after.reached page.run⟩ := by
    have held := starts.held.2
    simpa [held?, Stage.waiting?_after_of_call? asked, pending] using held
  rw [Tickets.isCurrent_iff, newest] at current
  have unovertaken := (reached_eq_iff idle few split page.run).1 (by simpa [reached] using current)
  have still : ∀ g ∈ first :: later, g.event.meddles = false := fun g member =>
    unmeddled _ (toMoment_mem (s := s) (by rw [split]; exact List.mem_append_right _ member))
  -- Nothing has overtaken the request, and so no other model was swapped in.
  have begins : first.after.model? page = some model := by
    obtain ⟨call, _, _, called, -⟩ := starts
    rw [← shows]
    exact Stage.model?_after (still first (List.mem_cons_self ..)) fun number =>
      Stage.not_ends_of_call called
  obtain ⟨first', m, rest, rfl, rfl, rfl, rfl⟩ := stages_eq_append_cons split
  rw [after_append, after_cons]
  refine after_of_kept (P := fun t => t.model? page = some model) begins fun g member kept => ?_
  rw [← kept]
  refine Stage.model?_after (still g (List.mem_cons_of_mem _ member)) fun number ends => ?_
  exact unovertaken g member
    ((Stage.overtakes_iff g page.run).2 (.inr (.inl ⟨page.swap, number, by simp, ends⟩)))

/-- The last request that selected something in a run, and its answer. -/
def LastSelected (s : Session) (run : List Moment) (page : Page) (request : Selection.Request)
    (result : Selection.Result) : Prop :=
  ∃ earlier g later, s.stages run = earlier ++ g :: later ∧ g.Selects page request result ∧
    ∀ other ∈ later, ∀ page request result, ¬ other.Selects page request result

/-- The result that is shared is the answer to the last request that selected something, and that
request was about the model that its page shows. -/
theorem result_of_current_model {s : Session} (idle : s.calls = []) (fresh : s.shared.result = none)
    {run : List Moment} (few : callsMade run < UInt64.size)
    (unmeddled : ∀ m ∈ run, m.event.meddles = false) {result : Selection.Result}
    (shown : (s.after run).shared.result = some result) :
    ∃ page request model, s.LastSelected run page request result ∧
      (s.after run).model? page = some model ∧ request.model = model.id := by
  -- By the last stage: it keeps the result, lets it go or puts another one in its place.
  induction run using List.reverseRecOn generalizing result with
  | nil => simp [fresh] at shown
  | append_singleton run m ih =>
    have fewer : callsMade run < UInt64.size := by
      rw [callsMade_append] at few
      omega
    have still : ∀ m ∈ run, m.event.meddles = false := fun m member =>
      unmeddled m (List.mem_append_left _ member)
    simp only [after_append, after_cons, after_nil] at shown ⊢
    have last : ((s.after run).stage m).event.meddles = false := unmeddled m (by simp)
    cases Stage.effect last with
    | keeps models model same unselected =>
      -- The request that was the last one before this stage still is.
      rw [same] at shown
      obtain ⟨page, request, model, ⟨earlier, g, later, split, selects, final⟩, shows, about⟩ :=
        ih fewer still shown
      refine ⟨page, request, model, ⟨earlier, g, later ++ [(s.after run).stage m], ?_, selects, ?_⟩,
        by rw [models]; exact shows, about⟩
      · rw [stages_append, split, List.append_assoc]
        rfl
      · intro other member
        rcases List.mem_append.1 member with before | here
        · exact final other before
        · rw [List.mem_singleton.1 here]
          exact unselected
    | clears _ _ _ none | swaps _ _ _ none =>
      rw [none] at shown
      cases shown
    | @selects page request result' selects models _ same =>
      -- The ticket of the request counts here, and so it is about the model that is shown.
      rw [same] at shown
      cases shown
      obtain ⟨number, answers, ticket, -, waits, current, -⟩ := id selects
      obtain ⟨model, shows, about⟩ := model?_of_isCurrent idle fewer still waits current
      refine ⟨page, request, model, ⟨s.stages run, _, [], by simp, selects, by simp⟩, ?_, about⟩
      rw [models]
      exact shows

/-- Only one page is used, and nobody meddles with what it shares. -/
def UsesOnly (page : Page) (run : List Moment) : Prop :=
  ∀ m ∈ run, m.event.meddles = false ∧ ∀ other, m.event.page? = some other → other = page

/-- All errands of a run are those of the page that is used. -/
theorem ends_page {s : Session} (idle : s.calls = []) {run : List Moment} {page : Page}
    (alone : UsesOnly page run) {g : Stage} (member : g ∈ s.stages run) {errand : Errand}
    {number : Nat} {outcome : Outcome} (ends : g.Ends errand number outcome) :
    errand.page = page := by
  -- An errand that ends was started, and that was asked on its own page.
  obtain ⟨first, m, rest, rfl, rfl⟩ := mem_stages member
  obtain ⟨ticket, holds⟩ := ends.held
  obtain ⟨earlier, g, later, split, starts⟩ := exists_starts idle holds
  have started : g.toMoment ∈ first := toMoment_mem (s := s) (by rw [split]; simp)
  exact (alone _ (List.mem_append_left _ started)).2 _ starts.page?

/-- The model of a page that is used alone is always the one that is shared. -/
theorem model?_eq_shared {s : Session} (idle : s.calls = []) {page : Page}
    (fresh : s.model? page = s.shared.model) {run : List Moment} (alone : UsesOnly page run) :
    (s.after run).model? page = (s.after run).shared.model := by
  -- The page shares its model whenever it swaps it, and no other page swaps one.
  refine after_of_kept (P := fun t => t.model? page = t.shared.model) fresh fun g member kept => ?_
  cases Stage.effect (alone _ (toMoment_mem member)).1 with
  | keeps models model | clears _ models model | selects _ models model => rw [models, model, kept]
  | swaps ends _ model =>
    have own := ends_page idle alone member ends
    rw [Page.swap_page] at own
    rw [← own, model]

/-- On a page that is used alone the model is always the one that is shared, every request names the
model that the page shows when it is sent, and a result that is shared answers the last request that
selected something, which was about the very model that the page shows.  Only the last part needs
that numbers do not come round again, as they do after 2 ^ 64 calls. -/
theorem result_is_of_current_model (page : Page) {run : List Moment} (alone : UsesOnly page run) :
    (({} : Session).after run).model? page = (({} : Session).after run).shared.model ∧
    (∀ g ∈ ({} : Session).stages run, ∀ number on request,
      g.call? = some (number, .waiting on) → on.call = .select request →
        ∃ model, g.before.model? page = some model ∧ request.model = model.id) ∧
    (callsMade run < UInt64.size →
      ∀ result, (({} : Session).after run).shared.result = some result → ∃ model request,
        (({} : Session).after run).model? page = some model ∧
        ({} : Session).LastSelected run page request result ∧ request.model = model.id) := by
  refine ⟨model?_eq_shared rfl (by cases page <;> rfl) alone, ?_, ?_⟩
  · -- Only the page that is used sends requests, and each names the model that it shows.
    intro g member number on request sent asks
    obtain ⟨sender, ticket, rfl⟩ := Waiting.eq_selecting asks
    obtain ⟨starts, model, shows, about⟩ := Stage.asks sent
    have own := (alone _ (toMoment_mem member)).2 _ starts.page?
    rw [Page.run_page] at own
    subst own
    exact ⟨model, shows, about⟩
  · -- What is shared was selected by some page, and only one is used.
    intro few result shown
    obtain ⟨sender, request, model, last, shows, about⟩ :=
      result_of_current_model rfl rfl few (fun m member => (alone m member).1) shown
    have own : sender = page := by
      obtain ⟨earlier, g, later, split, selects, -⟩ := last
      obtain ⟨number, ends⟩ := selects.ends
      have page' := ends_page rfl alone (by rw [split]; simp) ends
      rwa [Page.run_page] at page'
    subst own
    exact ⟨model, request, shows, last, about⟩

/-- A backend with one lesson, about a box. -/
def boxAnswers : Answers
  | .lesson id =>
    .ok { id, title := "Extrude", startingSelection := "faces", model := some ⟨"box"⟩ }
  | .compile _ => .ok { id := ⟨"box"⟩, meshUrl := "/box.glb" }
  | .select request => .ok { expression := request.selection, previewMeshUrl := some "/faces.glb" }
  | _ => .error (.unreachable "timeout")

/-- The lesson about the box is loaded, and its selector is run. -/
def boxRun : List Moment := [
  ⟨⟨0⟩, .call (.lesson (.load ⟨"extrude"⟩))⟩, ⟨⟨1⟩, .arrival 0 boxAnswers⟩,
  ⟨⟨2⟩, .arrival 0 boxAnswers⟩, ⟨⟨3⟩, .call (.lesson .run)⟩, ⟨⟨4⟩, .arrival 1 boxAnswers⟩]

/-- The faces of the box are the result that is shared once its lesson was run. -/
theorem result_is_of_box :
    UsesOnly .lesson boxRun ∧
    (({} : Session).after boxRun).model? .lesson = (({} : Session).after boxRun).shared.model ∧
    ∃ model request, (({} : Session).after boxRun).model? .lesson = some model ∧
      ({} : Session).LastSelected boxRun .lesson request
        { expression := "faces", previewMeshUrl := some "/faces.glb" } ∧
      request.model = model.id := by
  -- The page of the lesson is the only one that is used.
  have alone : UsesOnly .lesson boxRun := by
    simp [UsesOnly, boxRun, Event.meddles, Event.page?]
  obtain ⟨same, -, current⟩ := result_is_of_current_model .lesson alone
  exact ⟨alone, same, current (by decide) _ rfl⟩

/-- A backend with one lesson, about a ball. -/
def ballAnswers : Answers
  | .lesson id =>
    .ok { id, title := "Revolve", startingSelection := "half", model := some ⟨"ball"⟩ }
  | .compile _ => .ok { id := ⟨"ball"⟩, meshUrl := "/ball.glb" }
  | .select request => .ok { expression := request.selection, previewMeshUrl := some "/half.glb" }
  | _ => .error (.unreachable "timeout")

/-- Each run that is started takes the number of its lane up by one, and the other calls wait on. -/
theorem after_replicate_run {s : Session} {model : Model} (now : Timestamp) (count : Nat)
    (has : s.lesson.model = some model) (typed : Text.trim s.lesson.selection ≠ "") :
    ((s.after (List.replicate count ⟨now, .call (.lesson .run)⟩)).lesson.model = some model ∧
        (s.after (List.replicate count ⟨now, .call (.lesson .run)⟩)).lesson.selection =
          s.lesson.selection) ∧
      (s.after (List.replicate count ⟨now, .call (.lesson .run)⟩)).reached .lessonRun =
        s.reached .lessonRun + UInt64.ofNat count ∧
      ∀ number on, s.waiting? number = some on →
        (s.after (List.replicate count ⟨now, .call (.lesson .run)⟩)).waiting? number = some on := by
  -- A run that starts leaves model and selector alone, and so the next one starts as well.
  induction count generalizing s with
  | zero => exact ⟨⟨has, rfl⟩, by simp, fun number on waits => waits⟩
  | succ count ih =>
    rw [List.replicate_succ, after_cons]
    have called : (s.stage ⟨now, .call (.lesson .run)⟩).event = .call (.lesson .run) := rfl
    have begun : (s.stage ⟨now, .call (.lesson .run)⟩).after.lesson = { s.lesson with
        selectionStatus := s.lesson.selectionStatus.begin
        tickets := s.lesson.tickets.invalidate .selection } := by
      rw [(Stage.of_call called).1]
      simp [stage, begin, LessonPage.start, LessonPage.startRun, has, typed, withLesson]
    obtain ⟨shows, reached, others⟩ := ih (s := (s.stage ⟨now, .call (.lesson .run)⟩).after)
      (by rw [begun]; exact has) (by rw [begun]; exact typed)
    refine ⟨⟨shows.1, shows.2.trans (by rw [begun])⟩, ?_,
      fun number on waits => others number on ?_⟩
    · rw [reached, UInt64.ofNat_add, UInt64.add_comm (UInt64.ofNat count), ← UInt64.add_assoc]
      simp [Session.reached, tickets, Errand.page, Errand.lane, begun]
    · rw [Stage.waiting?_after_of_not_isAbout]
      · exact waits
      · -- The stage is about the call that it starts.
        intro about
        rcases about.started_or_answered with ⟨_, -, next⟩ | ⟨_, _, arrived, -⟩
        · exact absurd (lt_length_of_waiting waits) (Nat.not_lt.2 (Nat.le_of_eq next.symm))
        · cases arrived

/-- The lesson about the box is loaded and its selector is run, but before there is an answer the
lesson about the ball is loaded. -/
def swapRun : List Moment :=
  boxRun.take 4 ++ [⟨⟨4⟩, .call (.lesson (.load ⟨"revolve"⟩))⟩, ⟨⟨5⟩, .arrival 2 ballAnswers⟩,
    ⟨⟨6⟩, .arrival 2 ballAnswers⟩]

/-- An answer that is taken becomes the result, and the model stays. -/
theorem Stage.Selects.after {g : Stage} {request : Selection.Request} {result : Selection.Result}
    (selects : g.Selects .lesson request result) :
    g.after.shared.result = some result ∧ g.after.lesson.model = g.before.lesson.model := by
  -- The ticket counts, so the answer is taken.
  obtain ⟨number, answers, ticket, arrived, waits, current, answered⟩ := selects
  simp only [tickets] at current
  rw [(of_arrival arrived waits).1]
  simp [goOn, Page.selecting, withLesson, LessonPage.resume, current, answered, Snapshot.apply]

/-- Once so many runs were started that the numbers come round again, a late answer about the box is
taken for one about the ball. -/
theorem exists_result_of_older_model : ∃ run, UsesOnly .lesson run ∧
    ∃ model request result, (({} : Session).after run).shared.result = some result ∧
      ({} : Session).LastSelected run .lesson request result ∧
      (({} : Session).after run).model? .lesson = some model ∧ request.model ≠ model.id := by
  -- One run waits while so many others start that their numbers come round to its own.
  have has : (({} : Session).after swapRun).lesson.model =
      some { id := ⟨"ball"⟩, meshUrl := "/ball.glb" } := rfl
  obtain ⟨⟨shows, -⟩, reached, others⟩ := after_replicate_run ⟨7⟩ (UInt64.size - 1) has (by decide)
  have waits := others 1 (Page.lesson.selecting ⟨.selection, 2⟩ (.of ⟨"box"⟩ "faces" none)) rfl
  generalize runs : List.replicate (UInt64.size - 1) (⟨⟨7⟩, .call (.lesson .run)⟩ : Moment) = rest
    at shows reached waits
  -- The number of the ticket has come round again.
  have current : (((({} : Session).after swapRun).after rest).tickets .lesson).isCurrent
      ⟨.selection, 2⟩ = true := by
    rw [Tickets.isCurrent_iff]
    exact reached.trans (by decide)
  have selects : (((({} : Session).after swapRun).after rest).stage
      ⟨⟨8⟩, .arrival 1 boxAnswers⟩).Selects .lesson (.of ⟨"box"⟩ "faces" none)
      { expression := "faces", previewMeshUrl := some "/faces.glb" } :=
    ⟨1, boxAnswers, _, rfl, waits, current, rfl⟩
  obtain ⟨result, model⟩ := selects.after
  refine ⟨swapRun ++ (rest ++ [⟨⟨8⟩, .arrival 1 boxAnswers⟩]), ?_,
    { id := ⟨"ball"⟩, meshUrl := "/ball.glb" }, .of ⟨"box"⟩ "faces" none,
    { expression := "faces", previewMeshUrl := some "/faces.glb" }, ?_, ?_, ?_, by decide⟩
  · -- All that is asked is asked of the lesson page.
    intro m member
    rcases List.mem_append.1 member with first | later
    · simp only [swapRun, boxRun, List.take_succ_cons, List.take_zero, List.cons_append,
        List.nil_append, List.mem_cons, List.not_mem_nil, or_false] at first
      rcases first with rfl | rfl | rfl | rfl | rfl | rfl | rfl <;>
        simp [Event.meddles, Event.page?]
    · rcases List.mem_append.1 later with again | last
      · rw [← runs] at again
        rw [List.eq_of_mem_replicate again]
        simp [Event.meddles, Event.page?]
      · rw [List.mem_singleton.1 last]
        simp [Event.meddles, Event.page?]
  · rw [after_append, after_append, after_cons, after_nil]
    exact result
  · -- The late answer is the last thing that happens.
    refine ⟨({} : Session).stages (swapRun ++ rest), _, [], ?_, selects, by simp⟩
    rw [← List.append_assoc, stages_append _ (swapRun ++ rest), after_append]
    rfl
  · rw [after_append, after_append, after_cons, after_nil, model?, model]
    exact shows

end Session

end SelectorTutorial
