import SelectorTutorial.Proofs.Session.CurrentResult

/-! What the pages draw over the meshes of their models. -/

namespace SelectorTutorial

/-- A layer is drawn where a text holds its URL between blanks. -/
theorem Layer.eq_of_mem_ofUrl {role : Role} {text : Option String} {layer : Layer}
    (drawn : layer ∈ Layer.ofUrl role text) :
    layer.role = role ∧ ∃ url, text = some url ∧ layer.url = Text.trim url := by
  -- A blank URL makes no layer, and trimming is all that happens to another one.
  cases text with
  | none => simp [Layer.ofUrl, Layer.present] at drawn
  | some url =>
    simp only [Layer.ofUrl, Layer.present, Option.map_some, List.mem_map, Option.mem_toList,
      Option.filter_eq_some_iff, Option.some.injEq] at drawn
    obtain ⟨_, ⟨rfl, -⟩, rfl⟩ := drawn
    exact ⟨rfl, url, rfl, rfl⟩

/-- The base layer of a scene is the mesh of its model. -/
theorem Scene.base_of_mem {model : Option Model} {result : Option Selection.Result}
    {mode : DisplayMode} {base : String}
    (drawn : ⟨.base, base⟩ ∈ (Scene.of model result mode).layers) :
    ∃ shown, model = some shown ∧ base = Text.trim shown.meshUrl := by
  -- The layer of the result comes second, and has the other role.
  rcases List.mem_append.1 drawn with first | second
  · split at first
    · cases first
    · obtain ⟨-, url, there, rfl⟩ := Layer.eq_of_mem_ofUrl first
      obtain ⟨shown, rfl, rfl⟩ := Option.map_eq_some_iff.1 there
      exact ⟨shown, rfl, rfl⟩
  · cases (Layer.eq_of_mem_ofUrl second).1

/-- The preview layer of a scene is the mesh of its result. -/
theorem Scene.preview_of_mem {model : Option Model} {result : Option Selection.Result}
    {mode : DisplayMode} {preview : String}
    (drawn : ⟨.selectionPreview, preview⟩ ∈ (Scene.of model result mode).layers) :
    ∃ shown url, result = some shown ∧ shown.previewMeshUrl = some url ∧
      preview = Text.trim url := by
  -- The layer of the model comes first, and has the other role.
  rcases List.mem_append.1 drawn with first | second
  · split at first
    · cases first
    · cases (Layer.eq_of_mem_ofUrl first).1
  · obtain ⟨-, url, there, rfl⟩ := Layer.eq_of_mem_ofUrl second
    obtain ⟨shown, rfl, there⟩ := Option.bind_eq_some_iff.1 there
    exact ⟨shown, url, rfl, there, rfl⟩

namespace Session

/-- What a page draws. -/
def scene (s : Session) : Page → Scene
  | .lesson => s.lesson.scene s.shared
  | .playground => s.playground.scene s.shared

/-- A page draws its own model and the result that is shared. -/
theorem scene_eq (s : Session) (page : Page) :
    s.scene page = .of (s.model? page) s.shared.result s.shared.mode := by
  -- Page by page.
  cases page <;> rfl

/-- What a page draws over the mesh of its model was selected of the model that its sender still
shows.  So it was selected of another model only if the other page selected it. -/
theorem preview_is_of_sender (page : Page) {run : List Moment}
    (unmeddled : ∀ m ∈ run, m.event.meddles = false) (few : callsMade run < UInt64.size)
    {base preview : String}
    (drawn : ⟨.base, base⟩ ∈ ((({} : Session).after run).scene page).layers)
    (above : ⟨.selectionPreview, preview⟩ ∈ ((({} : Session).after run).scene page).layers) :
    ∃ model result url sender request own,
      (({} : Session).after run).model? page = some model ∧ base = Text.trim model.meshUrl ∧
      (({} : Session).after run).shared.result = some result ∧
      result.previewMeshUrl = some url ∧ preview = Text.trim url ∧
      ({} : Session).LastSelected run sender request result ∧
      (({} : Session).after run).model? sender = some own ∧ request.model = own.id ∧
      (request.model ≠ model.id → sender ≠ page) := by
  -- The layers tell the model of the page and the result that is shared.
  rw [scene_eq] at drawn above
  obtain ⟨model, shows, rfl⟩ := Scene.base_of_mem drawn
  obtain ⟨result, url, shown, there, rfl⟩ := Scene.preview_of_mem above
  obtain ⟨sender, request, own, last, owns, about⟩ :=
    result_of_current_model rfl rfl few unmeddled shown
  refine ⟨model, result, url, sender, request, own, shows, rfl, shown, there, rfl, last, owns,
    about, fun other same => other ?_⟩
  -- The sender shows one model only.
  rw [same, shows, Option.some.injEq] at owns
  rw [about, owns]

/-- A lesson about a box is loaded, and then half a ball is selected on the playground. -/
def ballRun : List Moment := [
  ⟨⟨0⟩, .call (.lesson (.load ⟨"extrude"⟩))⟩, ⟨⟨1⟩, .arrival 0 boxAnswers⟩,
  ⟨⟨2⟩, .arrival 0 boxAnswers⟩,
  ⟨⟨3⟩, .edit (.form fun form => { form with source := "ball()", selection := "half" })⟩,
  ⟨⟨4⟩, .call (.playground .compile)⟩, ⟨⟨5⟩, .arrival 1 ballAnswers⟩,
  ⟨⟨6⟩, .call (.playground .run)⟩, ⟨⟨7⟩, .arrival 2 ballAnswers⟩]

/-- The lesson draws half a ball over its box, which is not what the playground selected it of. -/
theorem ball_over_box : ¬ ∀ (run : List Moment) (page : Page),
    (∀ m ∈ run, m.event.meddles = false) → callsMade run < UInt64.size →
    ∀ model result sender request base preview,
      (({} : Session).after run).model? page = some model →
      (({} : Session).after run).shared.result = some result →
      ({} : Session).LastSelected run sender request result →
      ((({} : Session).after run).scene page).layers =
        [⟨.base, base⟩, ⟨.selectionPreview, preview⟩] →
      request.model = model.id := by
  -- The playground selects of its ball while the lesson still shows its box.
  intro always
  have last : ({} : Session).LastSelected ballRun .playground (.of ⟨"ball"⟩ "half" none)
      { expression := "half", previewMeshUrl := some "/half.glb" } :=
    ⟨({} : Session).stages (ballRun.take 7), _, [], rfl, ⟨2, ballAnswers, _, rfl, rfl, rfl, rfl⟩,
      by simp⟩
  have same := always ballRun .lesson (by simp [ballRun, Event.meddles]) (by decide) _ _ _ _
    "/box.glb" "/half.glb" rfl rfl last (by decide)
  revert same
  decide

/-- What the lesson draws over its box was selected of the ball that the playground shows. -/
theorem preview_is_of_ball :
    (∀ m ∈ ballRun, m.event.meddles = false) ∧ callsMade ballRun < UInt64.size ∧
    ⟨.base, "/box.glb"⟩ ∈ ((({} : Session).after ballRun).scene .lesson).layers ∧
    ⟨.selectionPreview, "/half.glb"⟩ ∈ ((({} : Session).after ballRun).scene .lesson).layers ∧
    ∃ model result url sender request own,
      (({} : Session).after ballRun).model? .lesson = some model ∧
      "/box.glb" = Text.trim model.meshUrl ∧
      (({} : Session).after ballRun).shared.result = some result ∧
      result.previewMeshUrl = some url ∧ "/half.glb" = Text.trim url ∧
      ({} : Session).LastSelected ballRun sender request result ∧
      (({} : Session).after ballRun).model? sender = some own ∧ request.model = own.id ∧
      (request.model ≠ model.id → sender ≠ .lesson) := by
  -- Both layers are found in the frame, so the theorem tells whose they are.
  have unmeddled : ∀ m ∈ ballRun, m.event.meddles = false := by simp [ballRun, Event.meddles]
  have few : callsMade ballRun < UInt64.size := by decide
  have drawn : ⟨.base, "/box.glb"⟩ ∈ ((({} : Session).after ballRun).scene .lesson).layers := by
    decide
  have above : ⟨.selectionPreview, "/half.glb"⟩ ∈
      ((({} : Session).after ballRun).scene .lesson).layers := by decide
  exact ⟨unmeddled, few, drawn, above, preview_is_of_sender .lesson unmeddled few drawn above⟩

end Session

end SelectorTutorial
