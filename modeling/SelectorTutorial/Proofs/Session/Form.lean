import SelectorTutorial.Proofs.Session.Made

/-! What stands in the form of the playground is what was filled in, with an example where none was
chosen. -/

namespace SelectorTutorial

/-- A form in which the first example is chosen, unless one is chosen already. -/
def Form.choosing (form : Form) (examples : List Example) : Form :=
  if form.example?.isNone then { form with example? := examples.head?.map (·.id) } else form

/-- An example that is chosen stays. -/
theorem Form.choosing_of_some {form : Form} {id : Example.Id} (chosen : form.example? = some id)
    (examples : List Example) : form.choosing examples = form := by
  -- Only where none is chosen is one taken.
  simp [choosing, chosen]

/-- To prepare the page is to choose an example in its form. -/
theorem Playground.preselect_form (page : Playground) (shared : Snapshot) :
    (page.preselect shared).form = page.form.choosing shared.examples := by
  -- Both ask whether one is chosen, and then for the first one that is shared.
  rw [preselect, Form.choosing]
  split <;> rfl

namespace Session

namespace Stage

/-- A stage is the last step of a call, by the calls that were made. -/
def completes (g : Stage) (made : List Call) (call : Call) : Bool :=
  match g.call? with
  | some (number, .finished _) => made[number]? == some call
  | some (_, .waiting _) => false
  | none => false

/-- A form after a stage: an edit changes it, and the last step to prepare the page chooses an
example. -/
def fill (made : List Call) (form : Form) (g : Stage) : Form :=
  match g.event with
  | .edit (.form change) => change form
  | _ => if g.completes made (.playground .prepare) then form.choosing g.after.shared.examples
    else form

/-- A stage that edits nothing fills in what its call does. -/
theorem fill_of_unedited {g : Stage} (unedited : ∀ edit, g.event ≠ .edit edit) (made : List Call)
    (form : Form) :
    g.fill made form = if g.completes made (.playground .prepare) then
      form.choosing g.after.shared.examples else form := by
  -- Only an edit changes the form otherwise.
  cases event : g.event with
  | edit edit => exact absurd event (unedited edit)
  | call | arrival => simp [fill, event]

/-- What a step of a call does to the form, by what the call was made for. -/
inductive Fills (g : Stage) (call : Call) : Prop
  /-- The page is prepared, and an example is chosen. -/
  | prepares {number result} (taken : g.call? = some (number, .finished result))
      (prepares : call = .playground .prepare)
      (form : g.after.playground.form =
        g.before.playground.form.choosing g.after.shared.examples)
  /-- The form stays as it is. -/
  | leaves (unprepared : call = .playground .prepare →
        ∃ number on, g.call? = some (number, .waiting on))
      (form : g.after.playground.form = g.before.playground.form)

/-- A call of the playground leaves the form as it is when it begins, unless it prepares the
page. -/
theorem fills_of_playgroundBegins {g : Stage} {call : Playground.Call} {step : Playground.Step}
    (begins : Playground.Begins g.before.playground g.before.shared call step)
    (takes : g.TakesPlayground g.before.calls.length step) : g.Fills (.playground call) := by
  -- By the ways a call begins: it prepares the page at once, or asks for a list, or is about
  -- something else.
  have form := congrArg Playground.form takes.playground
  cases begins with
  | prepared =>
    refine .prepares takes.taken rfl ?_
    rw [form, takes.shared, Playground.preselect_form]
  | asked => exact .leaves (fun _ => ⟨_, _, takes.taken⟩) form
  | skipped lacking =>
    refine .leaves ?_ form
    rintro ⟨⟩
    obtain ⟨⟨⟩, -⟩ | ⟨⟨⟩, -⟩ := lacking
  | unsupported | unreadable | compiles | runs => exact .leaves nofun form

/-- A call of the playground leaves the form as it is when it goes on, unless it prepares the
page. -/
theorem fills_of_playgroundGoesOn {g : Stage} {number : Nat} {answers : Answers}
    {on : Playground.Waiting} {step : Playground.Step} {call : Call}
    (awaits : call.Awaits (.playground on))
    (goesOn : Playground.GoesOn g.time answers g.before.playground g.before.shared on step)
    (takes : g.TakesPlayground number step) : g.Fills call := by
  -- By the step that the call takes; one of them fills in the form.
  have form := congrArg Playground.form takes.playground
  cases goesOn with
  | prepared =>
    cases awaits
    refine .prepares takes.taken rfl ?_
    rw [form, takes.shared, Playground.preselect_form]
  | asked => exact .leaves (fun _ => ⟨_, _, takes.taken⟩) form
  | applied | failed | selected | refused =>
    cases awaits
    exact .leaves nofun form
  | late holds =>
    refine .leaves ?_ form
    -- Whoever holds a ticket was not called to prepare the page.
    rintro rfl
    cases awaits
    cases holds

/-- The first step of a call fills in what the call was made for. -/
theorem fills_of_call {g : Stage} {call : Call} (called : g.event = .call call) : g.Fills call := by
  -- By the calls: only those of the playground can touch its form.
  cases call with
  | ensureLessons =>
    refine .leaves (by simp) ?_
    rw [(of_call called).1]
    simp only [begin]
    split <;> rfl
  | ensureCatalog => exact .leaves (by simp) (by rw [(of_call called).1]; rfl)
  | lesson call =>
    obtain ⟨step, -, takes⟩ := begins_of_lesson called
    exact .leaves (by simp) (congrArg Playground.form takes.playground)
  | playground call =>
    obtain ⟨step, begins, takes⟩ := begins_of_playground called
    exact fills_of_playgroundBegins begins takes

/-- A later step of a call fills in what the call was made for. -/
theorem fills_of_arrival {g : Stage} {number : Nat} {answers : Answers} {on : Waiting} {call : Call}
    (arrived : g.event = .arrival number answers) (waits : g.before.waiting? number = some on)
    (awaits : call.Awaits on) : g.Fills call := by
  -- By what is answered: only what the playground waits for can touch its form.
  cases on with
  | lessons =>
    have same := (fetchesLists_of_lessons arrived waits).playground
    cases awaits
    exact .leaves nofun (congrArg Playground.form same)
  | catalog on =>
    have same := (fetchesLists_of_catalog arrived waits).playground
    cases awaits
    exact .leaves nofun (congrArg Playground.form same)
  | lesson on =>
    obtain ⟨step, -, takes⟩ := goesOn_of_lesson arrived waits
    refine .leaves ?_ (congrArg Playground.form takes.playground)
    rintro rfl
    cases awaits
  | playground on =>
    obtain ⟨step, goesOn, takes⟩ := goesOn_of_playground arrived waits
    exact fills_of_playgroundGoesOn awaits goesOn takes

/-- A stage that is about a call fills in what that call was made for. -/
theorem fills_of_isAbout {g : Stage} {made : List Call} (tallies : g.before.Tallies made)
    {number : Nat} (about : g.IsAbout number) :
    ∃ call, (made ++ g.event.call?.toList)[number]? = some call ∧ g.Fills call := by
  -- The stage starts the call or answers it.
  rcases tallies.made_of_isAbout about with
    ⟨call, called, place⟩ | ⟨answers, on, call, arrived, waits, place, awaits⟩
  · exact ⟨call, place, fills_of_call called⟩
  · exact ⟨call, place, fills_of_arrival arrived waits awaits⟩

/-- A stage that is about no call fills in what is edited. -/
theorem form_of_uncalled {g : Stage} (uncalled : g.call? = none) (made : List Call) :
    g.after.playground.form = g.fill made g.before.playground.form := by
  -- It is an edit, or an answer that nobody waits for.
  cases event : g.event with
  | call call => simp [(of_call event).2] at uncalled
  | edit edit =>
    rw [(of_edit event).1, fill, event]
    cases edit <;> simp [Session.edit, completes, uncalled] <;> rfl
  | arrival number answers =>
    cases waits : g.before.waiting? number with
    | none => simp [(of_stray event waits).1, fill, event, completes, uncalled]
    | some on => simp [(of_arrival event waits).2] at uncalled

/-- After a stage the form is the one before it, with what is filled in there. -/
theorem form_after {g : Stage} {made : List Call} (tallies : g.before.Tallies made)
    (later : List Call) :
    g.after.playground.form =
      g.fill (made ++ g.event.call?.toList ++ later) g.before.playground.form := by
  -- A stage that is about a call does what that call was made for, and the place of the call in the
  -- run tells which one that is.
  cases step : g.call? with
  | none => exact form_of_uncalled step _
  | some taken =>
    obtain ⟨number, progress⟩ := taken
    obtain ⟨call, place, fills⟩ := fills_of_isAbout tallies ⟨progress, step⟩
    have unedited : ∀ edit, g.event ≠ .edit edit := by
      intro edit edited
      simp [(of_edit edited).2] at step
    have place := getElem?_append_of_made place later
    rw [fill_of_unedited unedited, completes, step]
    cases fills with
    | prepares taken prepares form =>
      cases step.symm.trans taken
      simp only [place]
      simp [prepares, form]
    | leaves unprepared form =>
      cases progress with
      | waiting on => simp [form]
      | finished result =>
        have other : call ≠ .playground .prepare := by
          intro prepares
          obtain ⟨_, on, taken⟩ := unprepared prepares
          cases step.symm.trans taken
        simp only [place]
        simp [other, form]

/-- An example that is chosen before a stage is chosen after it, unless that is edited. -/
theorem example?_fill {g : Stage} {form : Form} {id : Example.Id} (chosen : form.example? = some id)
    (kept : ∀ change, g.event = .edit (.form change) → (change form).example? = form.example?)
    (made : List Call) : (g.fill made form).example? = some id := by
  -- Only an edit, or preparing the page while no example is chosen, touches it.
  rw [fill]
  split
  · next change edited => rw [kept change edited, chosen]
  · rw [Form.choosing_of_some chosen]
    split <;> exact chosen

end Stage

/-- At the end of a run the form is the one at first, with all that was filled in since, in its
order. -/
theorem Tallies.form_after {s : Session} {made : List Call} (tallies : s.Tallies made)
    (run : List Moment) (later : List Call) :
    (s.after run).playground.form =
      (s.stages run).foldl (Stage.fill (made ++ madeIn run ++ later)) s.playground.form := by
  -- The induction follows the run; the calls of its first stage join those that were made before.
  induction run generalizing s made with
  | nil => rfl
  | cons m run ih =>
    have first := Stage.form_after (g := s.stage m) tallies (madeIn run ++ later)
    have rest := ih (Stage.tallies_after (g := s.stage m) tallies)
    rw [after_cons, rest, first, stages_cons, List.foldl_cons, madeIn_cons]
    simp only [List.append_assoc]
    rfl

/-- Each stage of a run fills in what it does, by all the calls that are made in the run. -/
theorem form_of_mem {shared : Snapshot} {run : List Moment} {g : Stage}
    (member : g ∈ ({ shared } : Session).stages run) :
    g.after.playground.form = g.fill (madeIn run) g.before.playground.form := by
  -- The run is split at the stage; the calls made later do not count at it.
  obtain ⟨first, m, rest, rfl, rfl⟩ := mem_stages member
  have form := Stage.form_after (g := (({ shared } : Session).after first).stage m)
    ((tallies_of_idle rfl).after first) (madeIn rest)
  rwa [madeIn_append, madeIn_cons, ← List.append_assoc]

/-- An answer is a step of the call that it is for, and of no other. -/
theorem Stage.eq_of_arrival {g : Stage} {number taken : Nat} {answers : Answers}
    {progress : Progress Waiting Result} (arrived : g.event = .arrival number answers)
    (step : g.call? = some (taken, progress)) : taken = number := by
  -- A call that is answered takes the step itself.
  cases waits : g.before.waiting? number with
  | none => simp [(of_stray arrived waits).2] at step
  | some on =>
    rw [(of_arrival arrived waits).2, Option.some.injEq, Prod.mk.injEq] at step
    exact step.1.symm

/-- An example that is chosen stays through all stages that do not edit it. -/
theorem example?_foldl_fill {stages : List Stage} {form : Form} {id : Example.Id}
    (chosen : form.example? = some id)
    (kept : ∀ g ∈ stages, ∀ change, g.event = .edit (.form change) →
      ∀ form, (change form).example? = form.example?) (made : List Call) :
    (stages.foldl (Stage.fill made) form).example? = some id := by
  -- Stage by stage, each of which leaves the example alone.
  induction stages generalizing form with
  | nil => exact chosen
  | cons g stages ih =>
    have still := Stage.example?_fill chosen
      (fun change edited => kept g List.mem_cons_self change edited form) made
    exact ih still fun g member => kept g (List.mem_cons_of_mem _ member)

/-- However calls and answers follow on each other, the form is at any time the empty one with all
edits made in their order, and where the last step to prepare the page finds no example chosen, the
first one that is shared then is chosen.  An answer to any other call leaves the form as it is, and
an example that is chosen stays, whatever is still in flight, unless it is edited. -/
theorem no_edit_is_lost (shared : Snapshot) (run : List Moment) :
    let s : Session := { shared }
    (s.after run).playground.form = (s.stages run).foldl (Stage.fill (madeIn run)) {} ∧
    (∀ g ∈ s.stages run, ∀ number answers call, g.event = .arrival number answers →
      (madeIn run)[number]? = some call → call ≠ .playground .prepare →
        g.after.playground.form = g.before.playground.form) ∧
    ∀ id rest, (s.after run).playground.form.example? = some id →
      (∀ m ∈ rest, ∀ change, m.event = .edit (.form change) →
        ∀ form, (change form).example? = form.example?) →
      (s.after (run ++ rest)).playground.form.example? = some id := by
  -- The form is filled in stage by stage from the empty one; the other two parts look at single
  -- stages of that.
  intro s
  have tallies : s.Tallies [] := tallies_of_idle rfl
  refine ⟨?filled, ?answered, ?chosen⟩
  case filled =>
    have form := tallies.form_after run []
    rwa [List.nil_append, List.append_nil] at form
  case answered =>
    intro g member number answers call arrived place other
    have uncompleted : g.completes (madeIn run) (.playground .prepare) = false := by
      rw [Stage.completes]
      split
      · next taken result step =>
        rw [Stage.eq_of_arrival arrived step, place]
        simpa using other
      · rfl
      · rfl
    rw [form_of_mem member, Stage.fill_of_unedited (by simp [arrived]), uncompleted]
    rfl
  case chosen =>
    intro id rest chosen kept
    rw [after_append, (tallies.after run).form_after rest []]
    exact example?_foldl_fill chosen (fun g member => kept _ (toMoment_mem member)) _

/-- A backend with two examples. -/
def exampleAnswers : Answers
  | .lessons => .ok []
  | .examples => .ok [{ id := ⟨"box"⟩, name := "Box" }, { id := ⟨"ring"⟩, name := "Ring" }]
  | _ => .error (.unreachable "timeout")

/-- While the page is prepared a source is typed and compiled; then it is prepared once more. -/
def typingRun : List Moment := [
  ⟨⟨0⟩, .call (.playground .prepare)⟩, ⟨⟨1⟩, .arrival 0 exampleAnswers⟩,
  ⟨⟨2⟩, .edit (.form fun form => { form with source := "box()" })⟩,
  ⟨⟨3⟩, .call (.playground .compile)⟩, ⟨⟨4⟩, .call (.playground .prepare)⟩,
  ⟨⟨5⟩, .arrival 0 exampleAnswers⟩, ⟨⟨6⟩, .edit (.form fun form => { form with source := "" })⟩,
  ⟨⟨7⟩, .arrival 1 exampleAnswers⟩]

/-- The first example is chosen beside what was typed, and nothing that arrives after that is a
reason to choose another one. -/
theorem typing_is_kept :
    (({} : Session).after typingRun).playground.form = { example? := some ⟨"box"⟩ } ∧
    (({} : Session).after (typingRun ++
      [⟨⟨8⟩, .arrival 2 exampleAnswers⟩])).playground.form.example? = some ⟨"box"⟩ := by
  -- Once the form is computed, the theorem says that the example in it stays.
  obtain ⟨filled, -, stays⟩ := no_edit_is_lost {} typingRun
  have form := filled.trans (show _ = ({ example? := some ⟨"box"⟩ } : Form) by rfl)
  exact ⟨form, stays ⟨"box"⟩ [⟨⟨8⟩, .arrival 2 exampleAnswers⟩] (by rw [form]) (by simp)⟩

end Session

end SelectorTutorial
