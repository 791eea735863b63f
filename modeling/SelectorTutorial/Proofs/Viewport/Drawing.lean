import SelectorTutorial.Proofs.Viewport.Cache
import SelectorTutorial.Viewport.Drawing

/-! A picture shows what there is at its URLs now, whatever the viewport keeps of earlier
pictures. -/

namespace SelectorTutorial

variable {assets : Assets} {v : Viewport} {url : String}

namespace Viewport

/-- Every mesh that is kept is the one that would be fetched now. -/
def IsCurrent (assets : Assets) (v : Viewport) : Prop :=
  ∀ url mesh, (url, mesh) ∈ v.kept → Mesh.ofFetched url (assets url) = .ok mesh

namespace IsCurrent

/-- A viewport that keeps nothing keeps only what there is now. -/
theorem empty : IsCurrent assets {} :=
  -- There is no mesh to look at.
  fun _ _ member => absurd member List.not_mem_nil

/-- What is left after meshes are dropped is what there is now. -/
theorem retain (current : v.IsCurrent assets) (scene : Scene) : (v.retain scene).IsCurrent assets :=
  -- It was kept before.
  fun url mesh member => current url mesh (List.mem_filter.mp member).1

/-- A mesh that was fetched now is the one that would be fetched now. -/
theorem take (current : v.IsCurrent assets) (url : String) :
    (v.take url (assets url)).IsCurrent assets := by
  -- A mesh that is kept was kept before, or was fetched now.
  cases fetched : Mesh.ofFetched url (assets url) with
  | error fault => simpa [Viewport.take, fetched] using current
  | ok mesh =>
    intro other kept member
    simp only [Viewport.take, fetched, keep, List.mem_append, List.mem_filter, List.mem_singleton,
      Prod.mk.injEq] at member
    rcases member with ⟨old, _⟩ | ⟨rfl, rfl⟩
    · exact current other kept old
    · exact fetched

end IsCurrent

end Viewport

namespace Loading

/-- A layer that has ended tells what there is at its URL now. -/
def IsTrue (assets : Assets) (url : String) (loading : Loading) : Prop :=
  ∀ mesh, loading = ended mesh → mesh = Mesh.ofFetched url (assets url)

/-- How many turns a layer still takes. -/
def left : Loading → Nat
  | planned => 2
  | asked => 1
  | ended _ => 0

/-- A turn makes no layer tell anything else, and keeps no other mesh. -/
theorem isTrue_turn {loading : Loading} (current : v.IsCurrent assets)
    (told : loading.IsTrue assets url) :
    (loading.turn assets v url).1.IsTrue assets url ∧
      (loading.turn assets v url).2.IsCurrent assets := by
  -- By how far the loading has come.
  cases loading with
  | planned =>
    cases found : v.find? url with
    | none =>
      simp only [turn, found]
      exact ⟨fun _ ended => Loading.noConfusion ended, current⟩
    | some mesh =>
      -- What is kept is what would be fetched.
      simp only [turn, found]
      refine ⟨fun shown ended => ?_, current⟩
      rw [current url mesh (Viewport.mem_of_find?_eq_some found)]
      exact (Loading.ended.inj ended).symm
  | asked =>
    refine ⟨fun shown ended => ?_, current.take url⟩
    exact (Loading.ended.inj ended).symm
  | ended mesh => exact ⟨told, current⟩

/-- A turn brings a layer nearer to its end. -/
theorem left_turn_le (assets : Assets) (v : Viewport) (url : String) (loading : Loading) :
    (loading.turn assets v url).1.left ≤ loading.left - 1 := by
  -- By how far the layer has come.
  cases loading with
  | planned => cases found : v.find? url <;> simp [turn, found, left]
  | asked => simp [turn, left]
  | ended mesh => simp [turn, left]

/-- Two turns in a row load a layer as it is loaded on its own. -/
theorem turn_turn (assets : Assets) (v : Viewport) (layer : Layer) :
    ∃ mesh,
      (planned.turn assets v layer.url).1.turn assets (planned.turn assets v layer.url).2
          layer.url =
        (ended mesh, (Viewport.load assets v layer).viewport) ∧
      (Viewport.load assets v layer).layer = ⟨layer, .ofMesh mesh⟩ := by
  -- A mesh that is found ends it at the first turn, so that the second one does nothing; else the
  -- layer is asked for and then fetched.
  cases found : v.find? layer.url with
  | some mesh =>
    exact ⟨.ok mesh, by simp [turn, Viewport.load, found],
      by simp [Viewport.load, found, LayerState.ofMesh]⟩
  | none =>
    exact ⟨Mesh.ofFetched layer.url (assets layer.url), by simp [turn, Viewport.load, found],
      by simp [Viewport.load, found]⟩

/-- A layer shows that it is being loaded for just as long as it still takes turns. -/
theorem state_eq_loading_iff {loading : Loading} : loading.state = .loading ↔ loading.left ≠ 0 := by
  -- By how far the layer has come; an ended one shows its mesh or its fault.
  cases loading with
  | planned | asked => simp [state, left]
  | ended mesh => cases mesh <;> simp [state, left, LayerState.ofMesh]

end Loading

namespace Drawing

variable {d : Drawing}

/-- All that a drawing shows and keeps is what there is now. -/
structure IsTrue (assets : Assets) (d : Drawing) : Prop where
  /-- What it keeps. -/
  kept : d.viewport.IsCurrent assets
  /-- What it shows. -/
  shown : ∀ entry ∈ d.layers, entry.2.IsTrue assets entry.1.url

/-- A drawing is true when it starts, as nothing has ended yet. -/
theorem IsTrue.start (current : v.IsCurrent assets) (layers : List Layer) :
    (start v layers).IsTrue assets where
  -- No layer of it has ended.
  kept := current
  shown := by
    intro entry member
    obtain ⟨layer, _, rfl⟩ := List.mem_map.mp member
    exact fun _ ended => Loading.noConfusion ended

/-- A turn of any layer leaves a drawing true. -/
theorem IsTrue.turn (holds : d.IsTrue assets) (place : Nat) :
    (d.turn assets place).IsTrue assets := by
  -- By whether there is a layer at the place.
  cases here : d.layers[place]? with
  | none => simpa [Drawing.turn, here] using holds
  | some entry =>
    obtain ⟨layer, loading⟩ := entry
    have told := holds.shown _ (List.mem_of_getElem? here)
    obtain ⟨stillTold, current⟩ := Loading.isTrue_turn holds.kept told
    simp only [Drawing.turn, here]
    refine ⟨current, fun entry member => ?_⟩
    -- A layer is where it was before, or it is the one that took the turn.
    rcases List.mem_or_eq_of_mem_set member with old | rfl
    · exact holds.shown entry old
    · exact stillTold

/-- A drawing stays true over any turns. -/
theorem IsTrue.turns (holds : d.IsTrue assets) (places : List Nat) :
    (d.turns assets places).IsTrue assets := by
  -- Turn by turn.
  induction places generalizing d with
  | nil => exact holds
  | cons place rest ih => exact ih (holds.turn place)

/-- A turn moves one layer on and leaves the others where they are. -/
theorem getElem?_layers_turn (assets : Assets) (d : Drawing) (place i : Nat) :
    (d.turn assets place).layers[i]? =
      if i = place then d.layers[place]?.map fun entry =>
        (entry.1, (entry.2.turn assets d.viewport entry.1.url).1)
      else d.layers[i]? := by
  -- A place without a layer takes no turn; else the one entry is exchanged.
  cases here : d.layers[place]? with
  | none =>
    simp only [turn, here]
    split
    · next same => simp [same, here]
    · rfl
  | some entry =>
    have within : place < d.layers.length := (List.getElem?_eq_some_iff.mp here).1
    simp only [turn, here, List.getElem?_set, eq_comm (a := place)]
    split
    · rfl
    · rfl

/-- A turn changes no layer into another one. -/
@[simp] theorem map_fst_layers_turn (place : Nat) :
    (d.turn assets place).layers.map (·.1) = d.layers.map (·.1) := by
  -- Place by place; the entry that is exchanged keeps its layer.
  apply List.ext_getElem?
  intro i
  rw [List.getElem?_map, List.getElem?_map, getElem?_layers_turn]
  split
  · next same => cases here : d.layers[place]? <;> simp [same, here]
  · rfl

/-- A drawing starts with the layers that it is of. -/
@[simp] theorem map_fst_layers_start (v : Viewport) (layers : List Layer) :
    (start v layers).layers.map (·.1) = layers := by
  -- Each of them is planned.
  simp [start, Function.comp_def]

/-- No turns change a layer into another one. -/
theorem map_fst_layers_turns (assets : Assets) (d : Drawing) (places : List Nat) :
    (d.turns assets places).layers.map (·.1) = d.layers.map (·.1) := by
  -- Turn by turn.
  induction places generalizing d with
  | nil => rfl
  | cons place rest ih =>
    calc ((d.turn assets place).turns assets rest).layers.map (·.1)
        = (d.turn assets place).layers.map (·.1) := ih _
      _ = d.layers.map (·.1) := map_fst_layers_turn place

/-- Each of its turns brings a layer nearer to its end. -/
theorem left_turns_le (assets : Assets) (places : List Nat) {i : Nat} {entry : Layer × Loading}
    (here : d.layers[i]? = some entry) :
    ∃ later, (d.turns assets places).layers[i]? = some later ∧
      later.2.left ≤ entry.2.left - places.count i := by
  -- By induction on the turns, and by whether the first one is its own.
  induction places generalizing d entry with
  | nil => exact ⟨entry, here, Nat.le_refl _⟩
  | cons place rest ih =>
    have moved := getElem?_layers_turn assets d place i
    by_cases its : i = place
    · -- It is its own turn, and one less is left to take.
      subst its
      rw [if_pos rfl, here] at moved
      obtain ⟨later, there, le⟩ := ih moved
      have nearer := entry.2.left_turn_le assets d.viewport entry.1.url
      refine ⟨later, there, ?_⟩
      dsimp only at le
      rw [List.count_cons_self]
      omega
    · rw [if_neg its, here] at moved
      obtain ⟨later, there, le⟩ := ih moved
      refine ⟨later, there, ?_⟩
      rwa [List.count_cons_of_ne (Ne.symm its)]

/-- When nothing is loading any more, every layer shows what there is at its URL now. -/
theorem IsTrue.frame_eq_fresh (holds : d.IsTrue assets) (still : d.frame.isLoading = false) :
    d.frame = Frame.fresh assets (d.layers.map (·.1)) := by
  -- Layer by layer, as no layer is loading.
  simp only [frame, Frame.fresh, List.map_map, Frame.mk.injEq]
  refine List.map_congr_left fun entry member => ?_
  obtain ⟨layer, loading⟩ := entry
  have notLoading : loading.state ≠ .loading := by
    simp only [Frame.isLoading, frame, List.any_eq_false, List.mem_map] at still
    simpa using still ⟨layer, loading.state⟩ ⟨(layer, loading), member, rfl⟩
  -- So it has ended, and what has ended tells what there is now.
  have told := holds.shown _ member
  cases loading with
  | planned | asked => exact absurd rfl notLoading
  | ended mesh =>
    simp only [Loading.state, Function.comp_apply]
    rw [told mesh rfl]

/-- When each layer has taken two turns, nothing is loading any more. -/
theorem isLoading_turns_start {layers : List Layer} {places : List Nat}
    (enough : ∀ i < layers.length, 2 ≤ places.count i) :
    ((start v layers).turns assets places).frame.isLoading = false := by
  -- A layer that is looked for has its place, and its turns are counted there.
  simp only [Frame.isLoading, frame, List.any_eq_false, List.mem_map]
  rintro _ ⟨⟨layer, loading⟩, member, rfl⟩
  obtain ⟨i, within, there⟩ := List.mem_iff_getElem.mp member
  have count : ((start v layers).turns assets places).layers.length = layers.length := by
    have same := congrArg List.length (map_fst_layers_turns assets (start v layers) places)
    rwa [List.length_map, map_fst_layers_start] at same
  have here : (start v layers).layers[i]? = some (layers[i], .planned) := by
    simp [start, count ▸ within]
  obtain ⟨later, found, le⟩ := left_turns_le assets places here
  have same : later = (layer, loading) := by
    rw [List.getElem?_eq_getElem within, there] at found
    exact (Option.some.inj found).symm
  -- It had two turns to take at the start.
  have ended : loading.left = 0 := by
    have turns := enough i (count ▸ within)
    have all : Loading.planned.left = 2 := rfl
    rw [same] at le
    dsimp only at le
    omega
  simpa [Loading.state_eq_loading_iff] using ended

/-- A layer among others takes a turn and leaves the others where they are. -/
theorem turn_among (before after : List (Layer × Loading)) (layer : Layer) (loading : Loading) :
    turn assets ⟨v, before ++ (layer, loading) :: after⟩ before.length =
      ⟨(loading.turn assets v layer.url).2,
        before ++ (layer, (loading.turn assets v layer.url).1) :: after⟩ := by
  -- Its place is the number of the layers before it.
  simp [turn]

/-- Two turns for each of some places, one place after another. -/
def inOrder (first count : Nat) : List Nat :=
  (List.range' first count).flatMap fun place => [place, place]

/-- When each layer takes its turns before the next one, the layers are loaded one after another. -/
theorem turns_inOrder (assets : Assets) (before : List (Layer × Loading)) (v : Viewport)
    (layers : List Layer) :
    ∃ after,
      turns assets ⟨v, before ++ layers.map fun layer => (layer, .planned)⟩
        (inOrder before.length layers.length) =
        ⟨(Viewport.loadAll assets v layers).viewport, before ++ after⟩ ∧
      (after.map fun (layer, loading) => (⟨layer, loading.state⟩ : RenderedLayer)) =
        (Viewport.loadAll assets v layers).frame.layers := by
  -- The layers before have ended, and the induction puts one more of them there.
  induction layers generalizing before v with
  | nil => exact ⟨[], by simp [turns, inOrder, Viewport.loadAll], rfl⟩
  | cons layer rest ih =>
    obtain ⟨mesh, loaded, shown⟩ := Loading.turn_turn assets v layer
    have place : (before ++ [(layer, Loading.ended mesh)]).length = before.length + 1 := by simp
    obtain ⟨after, others, rendered⟩ :=
      ih (before ++ [(layer, .ended mesh)]) (Viewport.load assets v layer).viewport
    refine ⟨(layer, .ended mesh) :: after, ?_, ?_⟩
    · rw [place] at others
      simp only [List.append_assoc, List.singleton_append] at others
      simp only [turns, inOrder, List.length_cons, List.range'_succ, List.flatMap_cons,
        List.cons_append, List.nil_append, List.foldl_cons, List.map_cons, turn_among, loaded]
      exact others
    · rw [List.map_cons, rendered]
      simp only [Viewport.loadAll, Loading.state, shown]

end Drawing

namespace Viewport

/-- Loading the layers of a scene one after another is one of the ways to load them side by side. -/
theorem render_eq_draw (assets : Assets) (v : Viewport) (scene : Scene) :
    (v.render assets scene).viewport =
        (v.draw assets scene (Drawing.inOrder 0 scene.layers.length)).viewport ∧
      (v.render assets scene).frame =
        (v.draw assets scene (Drawing.inOrder 0 scene.layers.length)).frame := by
  -- Loading a layer takes two turns in a row.
  obtain ⟨after, same, rendered⟩ :=
    Drawing.turns_inOrder assets [] (v.retain scene) scene.layers
  simp only [List.nil_append, List.length_nil] at same
  rw [draw, Drawing.start, same]
  exact ⟨rfl, by simp only [render, Drawing.frame, rendered]⟩

/-- Of the places of some layers each has two turns. -/
theorem two_le_count_inOrder {count i : Nat} (within : i < count) :
    2 ≤ (Drawing.inOrder 0 count).count i := by
  -- The place is one of those in the row, and has its two turns there.
  have member : i ∈ List.range' 0 count := by simp [within]
  obtain ⟨before, after, split⟩ := List.append_of_mem member
  simp only [Drawing.inOrder, split, List.flatMap_append, List.flatMap_cons, List.count_append]
  simp
  omega

/-- Nothing is loading any more in a picture whose layers were loaded one after another. -/
theorem isLoading_render (assets : Assets) (v : Viewport) (scene : Scene) :
    (v.render assets scene).frame.isLoading = false := by
  -- In order each layer has the two turns that it needs.
  rw [(render_eq_draw assets v scene).2]
  exact Drawing.isLoading_turns_start fun _ within => two_le_count_inOrder within

end Viewport

/-- A scene that is drawn, and the places of the layers that take turns, in the order of the
turns. -/
structure Picture where
  /-- The scene. -/
  scene : Scene
  /-- The places. -/
  places : List Nat
deriving DecidableEq, Repr

/-- What there is to see of a layer: the mesh at its URL with its head and all of its bytes, or the
reason why there is none. -/
inductive RenderedLayer.IsOf (assets : Assets) : RenderedLayer → Prop
  | ready {layer : Layer} {bytes : Bytes} {header : Glb.Header}
      (served : assets layer.url = .ok bytes) (head : Glb.header? bytes = .ok header) :
      IsOf assets ⟨layer, .ready ⟨layer.url, header, bytes⟩⟩
  | noMesh {layer : Layer} {bytes : Bytes} {fault : Glb.Fault}
      (served : assets layer.url = .ok bytes) (head : Glb.header? bytes = .error fault) :
      IsOf assets ⟨layer, .failed (Mesh.Fault.format fault).message⟩
  | missing {layer : Layer} {error : BackendError} (refused : assets layer.url = .error error) :
      IsOf assets ⟨layer, .failed (Mesh.Fault.fetch error).message⟩

namespace Frame

/-- Each layer that is fetched shows what there is at its URL. -/
theorem isOf_of_mem_fresh {layers : List Layer} {l : RenderedLayer}
    (member : l ∈ (fresh assets layers).layers) : l.IsOf assets := by
  -- Nothing was fetched, or bytes without a head, or a mesh.
  obtain ⟨layer, _, rfl⟩ := List.mem_map.mp member
  cases fetched : assets layer.url with
  | error error => exact .missing fetched
  | ok bytes =>
    cases head : Glb.header? bytes with
    | error fault =>
      simp only [Mesh.ofFetched, head, LayerState.ofMesh]
      exact .noMesh fetched head
    | ok header =>
      simp only [Mesh.ofFetched, head, LayerState.ofMesh]
      exact .ready fetched head

end Frame

namespace Viewport

/-- A viewport after some pictures, each of them finished or given up. -/
def afterPictures (assets : Assets) (v : Viewport) (pictures : List Picture) : Viewport :=
  pictures.foldl (fun v picture => (v.draw assets picture.scene picture.places).viewport) v

namespace IsCurrent

/-- A picture keeps only what there is now, be it finished or not. -/
theorem draw (current : v.IsCurrent assets) (scene : Scene) (places : List Nat) :
    (v.draw assets scene places).IsTrue assets :=
  -- It starts with what is retained.
  (Drawing.IsTrue.start (current.retain scene) scene.layers).turns places

/-- A viewport keeps only what there is now, whatever pictures are drawn. -/
theorem afterPictures (current : v.IsCurrent assets) (pictures : List Picture) :
    (v.afterPictures assets pictures).IsCurrent assets := by
  -- Picture by picture, be they finished or not.
  induction pictures generalizing v with
  | nil => exact current
  | cons picture rest ih => exact ih (current.draw picture.scene picture.places).kept

/-- A viewport keeps only what there is now, whatever scenes are drawn. -/
theorem afterAll (current : v.IsCurrent assets) (scenes : List Scene) :
    (v.afterAll (scenes.map fun scene => ⟨assets, scene⟩)).IsCurrent assets := by
  -- By induction on the scenes.
  induction scenes generalizing v with
  | nil => exact current
  | cons scene rest ih =>
    -- Drawing the first scene is one way to load its layers side by side.
    have next : (v.render assets scene).viewport.IsCurrent assets := by
      rw [(render_eq_draw assets v scene).1]
      exact (current.draw scene _).kept
    exact ih next

/-- A finished picture is that of a viewport that keeps nothing. -/
theorem frame_draw (current : v.IsCurrent assets) {scene : Scene} {places : List Nat}
    (still : (v.draw assets scene places).frame.isLoading = false) :
    (v.draw assets scene places).frame = Frame.fresh assets scene.layers := by
  -- A true drawing in which nothing is loading shows what is fetched for each layer.
  rw [(current.draw scene places).frame_eq_fresh still, Viewport.draw,
    Drawing.map_fst_layers_turns, Drawing.map_fst_layers_start]

/-- So is one whose layers are loaded one after another. -/
theorem frame_render (current : v.IsCurrent assets) (scene : Scene) :
    (v.render assets scene).frame = Frame.fresh assets scene.layers := by
  -- It is the drawing whose layers take their turns in order.
  have still := isLoading_render assets v scene
  rw [(render_eq_draw assets v scene).2] at still ⊢
  exact current.frame_draw still

end IsCurrent

/-- While the URLs give the same all the time, no picture shows what a viewport keeps of earlier
ones. It has the layers of the pending picture, that is the model, unless it is left out, below the
selected shapes, and none at a blank URL; nothing in it is loading any more; and each layer shows
the mesh at its own URL, or the reason why there is none there.  So it is the picture of a new
viewport.  The same holds when the layers are loaded side by side, in whatever order they take their
turns, after pictures that were drawn so and may have been given up: each layer that has two turns
comes to its end, and when all have, this is the picture. -/
theorem picture_is_fresh (assets : Assets) (earlier : List Scene) (scene : Scene) :
    let new : Viewport := {}
    let frame :=
      ((new.afterAll (earlier.map fun scene => ⟨assets, scene⟩)).render assets scene).frame
    let pending := Frame.pending scene.layers
    frame = (new.render assets scene).frame ∧
    frame.layers.map (·.layer) = pending.layers.map (·.layer) ∧
    (∀ layer, layer ∈ pending.layers.map (·.layer) ↔
      layer.url ≠ "" ∧
      (layer.role = .base ∧ scene.mode = .showBase ∧
          (∃ raw, scene.base = some raw ∧ Text.trim raw = layer.url) ∨
        layer.role = .selectionPreview ∧
          ∃ raw, scene.preview = some raw ∧ Text.trim raw = layer.url)) ∧
    (pending.layers.map (·.layer.role)).Sublist [.base, .selectionPreview] ∧
    frame.isLoading = false ∧
    (∀ l ∈ frame.layers, l.IsOf assets) ∧
    ∀ (pictures : List Picture) (places : List Nat),
      let drawing := (new.afterPictures assets pictures).draw assets scene places
      drawing.frame.layers.map (·.layer) = pending.layers.map (·.layer) ∧
      ((∀ i < scene.layers.length, 2 ≤ places.count i) → drawing.frame.isLoading = false) ∧
      (drawing.frame.isLoading = false → drawing.frame = frame) := by
  intro new frame pending
  -- With and without earlier pictures, the frame is the one that keeps nothing at all.
  have fresh : frame = Frame.fresh assets scene.layers :=
    (IsCurrent.empty.afterAll earlier).frame_render scene
  have planned : pending.layers.map (·.layer) = scene.layers := by
    simp [pending, Frame.pending, Function.comp_def]
  refine ⟨?sameAsNew, ?layers, ?which, ?order, isLoading_render _ _ _, ?shown, ?sideBySide⟩
  case sameAsNew => rw [fresh, IsCurrent.empty.frame_render scene]
  case layers =>
    rw [planned, fresh]
    simp [Frame.fresh, Function.comp_def]
  case which =>
    intro layer
    rw [planned, Scene.mem_layers_iff, Scene.mem_ofUrl_iff, Scene.mem_ofUrl_iff]
    constructor
    · rintro (⟨⟨role, raw, given, trimmed, present⟩, mode⟩ | ⟨role, raw, given, trimmed, present⟩)
      · exact ⟨present, .inl ⟨role, mode, raw, given, trimmed⟩⟩
      · exact ⟨present, .inr ⟨role, raw, given, trimmed⟩⟩
    · rintro ⟨present, ⟨role, mode, raw, given, trimmed⟩ | ⟨role, raw, given, trimmed⟩⟩
      · exact .inl ⟨⟨role, raw, given, trimmed, present⟩, mode⟩
      · exact .inr ⟨role, raw, given, trimmed, present⟩
  case order =>
    have roles := scene.roles_sublist
    rw [← planned, List.map_map] at roles
    exact roles
  case shown =>
    intro l member
    rw [fresh] at member
    exact Frame.isOf_of_mem_fresh member
  case sideBySide =>
    intro pictures places drawing
    have current : (new.afterPictures assets pictures).IsCurrent assets :=
      IsCurrent.empty.afterPictures pictures
    refine ⟨?_, Drawing.isLoading_turns_start, fun still => ?_⟩
    · rw [planned]
      have same := Drawing.map_fst_layers_turns assets
        (.start ((new.afterPictures assets pictures).retain scene) scene.layers) places
      rw [Drawing.map_fst_layers_start] at same
      rw [← same]
      simp [drawing, draw, Drawing.frame, Function.comp_def]
    · rw [fresh]
      exact current.frame_draw still

/-- A box and its missing faces, loaded side by side with the faces ahead, after a picture of them
that was given up while the faces were asked for. -/
theorem box_is_drawn_side_by_side :
    let given : List Picture := [⟨boxScene .showBase, [1, 0, 0]⟩]
    let drawing :=
      (({} : Viewport).afterPictures (boxAssets false) given).draw (boxAssets false)
        (boxScene .showBase) [1, 0, 1, 0]
    (∀ i < (boxScene .showBase).layers.length, 2 ≤ [1, 0, 1, 0].count i) ∧
    drawing.frame.isLoading = false ∧
    drawing.frame = (({} : Viewport).render (boxAssets false) (boxScene .showBase)).frame ∧
    drawing.frame.layers = [
      ⟨⟨.base, "/box.glb"⟩, .ready ⟨"/box.glb", ⟨2, 12, none⟩, bareMesh⟩⟩,
      ⟨⟨.selectionPreview, "/faces.glb"⟩,
        .failed "asset request failed: /faces.glb not found"⟩] := by
  -- The theorem is applied to that picture and those turns.
  intro given drawing
  have enough : ∀ i < (boxScene .showBase).layers.length, 2 ≤ [1, 0, 1, 0].count i := by decide
  obtain ⟨same, _, _, _, _, _, sideBySide⟩ :=
    picture_is_fresh (boxAssets false) [boxScene .showBase, boxScene .highlightOnly]
      (boxScene .showBase)
  obtain ⟨_, ends, shows⟩ := sideBySide given [1, 0, 1, 0]
  have still : drawing.frame.isLoading = false := ends enough
  exact ⟨enough, still, (shows still).trans same, by decide⟩

end Viewport

end SelectorTutorial
