import Mathlib.Data.List.Induction
import Mathlib.Data.List.Nodup
import SelectorTutorial.Proofs.Viewport.Scene
import SelectorTutorial.Viewport.Cache

/-! What a viewport keeps after any row of pictures, and what is fetched for the next one. -/

namespace SelectorTutorial

/-- A URL has a mesh when bytes are served there that begin as those of a mesh do. -/
def Assets.HaveMesh (assets : Assets) (url : String) : Prop :=
  ∃ bytes header, assets url = .ok bytes ∧ Glb.header? bytes = .ok header

namespace Mesh

variable {url : String} {fetched : Except BackendError Bytes} {mesh : Mesh}

/-- A mesh is all of the bytes that were fetched, with the head read from them. -/
theorem ofFetched_eq_ok_iff :
    ofFetched url fetched = .ok mesh ↔
      ∃ bytes header, fetched = .ok bytes ∧ Glb.header? bytes = .ok header ∧
        mesh = { url, header, bytes } := by
  -- Nothing was fetched, or bytes without a head, or a mesh.
  cases fetched with
  | error error => simp [ofFetched]
  | ok bytes =>
    cases head : Glb.header? bytes with
    | error fault => simp [ofFetched, head]
    | ok header => simp [ofFetched, head, eq_comm]

/-- What was fetched is a mesh just where the URL has one. -/
theorem exists_ofFetched_eq_ok_iff {assets : Assets} :
    (∃ mesh, ofFetched url (assets url) = .ok mesh) ↔ assets.HaveMesh url := by
  -- A mesh is told by its bytes and their head.
  simp only [ofFetched_eq_ok_iff, Assets.HaveMesh]
  constructor
  · rintro ⟨_, bytes, header, served, head, _⟩
    exact ⟨bytes, header, served, head⟩
  · rintro ⟨bytes, header, served, head⟩
    exact ⟨_, bytes, header, served, head, rfl⟩

end Mesh

namespace Viewport

variable {assets : Assets} {v : Viewport} {url : String} {layer : Layer} {scene : Scene}

/-- Whether a mesh is kept under a URL. -/
def keeps (v : Viewport) (url : String) : Bool :=
  (v.find? url).isSome

/-- A URL is kept when some mesh is kept under it. -/
theorem keeps_iff : v.keeps url ↔ ∃ mesh, (url, mesh) ∈ v.kept := by
  -- The first of these is looked up.
  simp [keeps, find?, List.lookup_isSome_iff]

/-- A URL is kept when a mesh is found under it. -/
theorem keeps_of_find?_eq_some {mesh : Mesh} (found : v.find? url = some mesh) : v.keeps url := by
  -- This is what it means to be kept.
  simp [keeps, found]

/-- A URL is not kept when no mesh is found under it. -/
theorem keeps_eq_false_of_find?_eq_none (absent : v.find? url = none) : v.keeps url = false := by
  -- This is what it means to be kept.
  simp [keeps, absent]

/-- What is found under a URL is kept there. -/
theorem mem_of_find?_eq_some {mesh : Mesh} (found : v.find? url = some mesh) :
    (url, mesh) ∈ v.kept := by
  -- It is the first one under that URL.
  obtain ⟨before, after, split, _⟩ := List.lookup_eq_some_iff.mp found
  simp [split]

/-- Of what was kept, that under the URLs of the scene stays. -/
theorem keeps_retain : (v.retain scene).keeps url ↔ v.keeps url ∧ scene.names url := by
  -- The meshes are filtered by their URLs.
  simp only [keeps_iff, retain, List.mem_filter, exists_and_right]

/-- Keeping one more mesh takes none away. -/
theorem keeps_keep {other : String} {mesh : Mesh} :
    (v.keep other mesh).keeps url ↔ v.keeps url ∨ url = other := by
  -- The mesh takes the place of one under the same URL, if any.
  by_cases same : url = other <;> simp [keeps_iff, keep, same]

/-- What was fetched is kept if there was a mesh, and takes nothing away. -/
theorem keeps_take {other : String} :
    (v.take other (assets other)).keeps url ↔
      v.keeps url ∨ url = other ∧ assets.HaveMesh url := by
  -- A mesh is kept, and anything else changes nothing.
  cases had : Mesh.ofFetched other (assets other) with
  | ok mesh =>
    have has : assets.HaveMesh other := Mesh.exists_ofFetched_eq_ok_iff.mp ⟨mesh, had⟩
    simp only [take, had, keeps_keep]
    constructor
    · rintro (kept | rfl)
      · exact .inl kept
      · exact .inr ⟨rfl, has⟩
    · rintro (kept | ⟨same, _⟩)
      · exact .inl kept
      · exact .inr same
  | error fault =>
    have hasNot : ¬ assets.HaveMesh other := by
      rw [← Mesh.exists_ofFetched_eq_ok_iff]
      simp [had]
    simp only [take, had]
    constructor
    · exact .inl
    · rintro (kept | ⟨rfl, has⟩)
      · exact kept
      · exact absurd has hasNot

/-! ### One layer -/

/-- A layer is fetched just when nothing is kept for it. -/
theorem fetched_load :
    (load assets v layer).fetched = if v.keeps layer.url then [] else [layer.url] := by
  -- A mesh is found for the layer, or it is fetched.
  cases found : v.find? layer.url with
  | some mesh => simp [load, found, keeps_of_find?_eq_some found]
  | none => simp [load, found, keeps_eq_false_of_find?_eq_none found]

/-- Whatever becomes of a layer, it is the same layer. -/
@[simp] theorem layer_load : (load assets v layer).layer.layer = layer := by
  -- A mesh is found for the layer, or it is fetched.
  cases found : v.find? layer.url <;> simp [load, found]

/-- After a layer was loaded, its mesh is kept too if it was fetched and there was one. -/
theorem keeps_load :
    (load assets v layer).viewport.keeps url ↔
      v.keeps url ∨ url ∈ (load assets v layer).fetched ∧ assets.HaveMesh url := by
  -- A mesh that is found changes nothing, and what is fetched is taken.
  cases found : v.find? layer.url with
  | some mesh => simp [load, found]
  | none => simp [load, found, keeps_take]

/-- The mesh of a layer that can be drawn is kept from then on. -/
theorem keeps_of_ready {mesh : Mesh} (ready : (load assets v layer).layer.state = .ready mesh) :
    (load assets v layer).viewport.keeps layer.url := by
  -- By whether the mesh was kept before.
  rw [keeps_load]
  cases found : v.find? layer.url with
  | some kept => exact .inl (keeps_of_find?_eq_some found)
  | none =>
    -- It was fetched, and what was fetched is a mesh.
    simp only [load, found] at ready ⊢
    cases fetched : Mesh.ofFetched layer.url (assets layer.url) with
    | error fault => simp [fetched, LayerState.ofMesh] at ready
    | ok mesh =>
      exact .inr ⟨List.mem_singleton_self _, Mesh.exists_ofFetched_eq_ok_iff.mp ⟨mesh, fetched⟩⟩

/-- The URL of a layer that failed has no mesh, and none is kept for it. -/
theorem meshless_of_failed {reason : String}
    (failed : (load assets v layer).layer.state = .failed reason) :
    (load assets v layer).viewport.keeps layer.url = false ∧ ¬ assets.HaveMesh layer.url := by
  -- A layer for which a mesh was kept cannot fail, so it was fetched in vain.
  cases found : v.find? layer.url with
  | some kept => simp [load, found] at failed
  | none =>
    simp only [load, found] at failed ⊢
    rw [← Mesh.exists_ofFetched_eq_ok_iff]
    cases fetched : Mesh.ofFetched layer.url (assets layer.url) with
    | ok mesh => simp [fetched, LayerState.ofMesh] at failed
    | error fault => simp [take, fetched, keeps_eq_false_of_find?_eq_none found]

/-! ### The layers of a picture -/

/-- Some layers are loaded in the viewport that the layers before them leave. -/
theorem loadAll_append (assets : Assets) (v : Viewport) (first rest : List Layer) :
    loadAll assets v (first ++ rest) =
      { frame :=
          { layers := (loadAll assets v first).frame.layers ++
              (loadAll assets (loadAll assets v first).viewport rest).frame.layers }
        fetched := (loadAll assets v first).fetched ++
          (loadAll assets (loadAll assets v first).viewport rest).fetched
        viewport := (loadAll assets (loadAll assets v first).viewport rest).viewport } := by
  -- Layer by layer, from the first.
  induction first generalizing v with
  | nil => rfl
  | cons layer first ih =>
    simp only [List.cons_append, loadAll]
    rw [ih]
    simp only [List.append_assoc]

/-- After all layers were loaded, those meshes are kept too that were fetched and were there. -/
theorem keeps_loadAll {layers : List Layer} :
    (loadAll assets v layers).viewport.keeps url ↔
      v.keeps url ∨ url ∈ (loadAll assets v layers).fetched ∧ assets.HaveMesh url := by
  -- Layer by layer, from the first.
  induction layers generalizing v with
  | nil => simp [loadAll]
  | cons layer rest ih =>
    simp only [loadAll, List.mem_append]
    rw [ih, keeps_load, or_and_right, or_assoc]

/-- A URL is fetched for some layers just when nothing is kept there and one of them is there. -/
theorem mem_fetched_loadAll_iff {layers : List Layer} :
    url ∈ (loadAll assets v layers).fetched ↔
      v.keeps url = false ∧ ∃ layer ∈ layers, layer.url = url := by
  -- By induction on the layers, and by whether the first one is at the URL.
  induction layers generalizing v with
  | nil => simp [loadAll]
  | cons layer rest ih =>
    simp only [loadAll, List.mem_append, ih, List.exists_mem_cons_iff, fetched_load]
    by_cases here : layer.url = url
    · -- The first layer that is there asks for the URL, unless its mesh is kept already.
      subst here
      cases kept : v.keeps layer.url with
      | false => simp
      | true =>
        have still : (load assets v layer).viewport.keeps layer.url := keeps_load.mpr (.inl kept)
        simp [still]
    · -- A layer that is elsewhere makes no difference to what is kept for the URL.
      have elsewhere : url ∉ (load assets v layer).fetched := by
        rw [fetched_load]
        split
        · exact List.not_mem_nil
        · exact fun member => here (List.mem_singleton.mp member).symm
      have same : (load assets v layer).viewport.keeps url = v.keeps url := by
        rw [Bool.eq_iff_iff, keeps_load]
        simp [elsewhere]
      have notFetched : url ∉ (if v.keeps layer.url then [] else [layer.url]) := by
        rwa [← fetched_load]
      simp [notFetched, same, here]

/-- Each layer of a picture was loaded in the viewport that the layers before it left. -/
theorem exists_moment {layers : List Layer} {l : RenderedLayer}
    (shown : l ∈ (loadAll assets v layers).frame.layers) :
    ∃ first rest, layers = first ++ l.layer :: rest ∧
      l = (load assets (loadAll assets v first).viewport l.layer).layer := by
  -- It is the first layer, or one of the others, which are loaded after that.
  induction layers generalizing v with
  | nil => exact absurd shown List.not_mem_nil
  | cons layer others ih =>
    simp only [loadAll, List.mem_cons] at shown
    rcases shown with here | later
    · have same : l.layer = layer := by rw [here, layer_load]
      exact ⟨[], others, by simp [same], by simp only [loadAll, same]; exact here⟩
    · obtain ⟨first, rest, split, loaded⟩ := ih later
      exact ⟨layer :: first, rest, by simp [split], loaded⟩

/-! ### A row of pictures -/

end Viewport

/-- A scene that is drawn, and what fetching a URL gives meanwhile. -/
structure Viewing where
  /-- What fetching a URL gives. -/
  assets : Assets
  /-- The scene. -/
  scene : Scene

namespace Viewport

variable {assets : Assets} {v : Viewport} {url : String} {layer : Layer} {scene : Scene}

/-- A viewport after some scenes were drawn one after another. -/
def afterAll (v : Viewport) (viewings : List Viewing) : Viewport :=
  viewings.foldl (fun v viewing => (v.render viewing.assets viewing.scene).viewport) v

/-- Pictures are drawn in two parts. -/
@[simp] theorem afterAll_append (first rest : List Viewing) :
    v.afterAll (first ++ rest) = (v.afterAll first).afterAll rest := by
  -- To fold over two lists is to go on after the first.
  simp only [afterAll, List.foldl_append]

/-- One picture is drawn. -/
@[simp] theorem afterAll_singleton (viewing : Viewing) :
    v.afterAll [viewing] = (v.render viewing.assets viewing.scene).viewport := rfl

/-- What is kept after a picture was kept before and is named by the scene, or was fetched. -/
theorem keeps_render :
    (v.render assets scene).viewport.keeps url ↔
      v.keeps url ∧ scene.names url ∨
        url ∈ (v.render assets scene).fetched ∧ assets.HaveMesh url := by
  -- What the scene does not name is dropped first, and then the layers are loaded.
  rw [render, keeps_loadAll, keeps_retain]

/-- A picture asks for the URLs of those of its layers for which nothing is kept. -/
theorem mem_fetched_render_iff :
    url ∈ (v.render assets scene).fetched ↔
      v.keeps url = false ∧ ∃ layer ∈ scene.layers, layer.url = url := by
  -- Nothing that a layer needs was let go, as each layer is named by the scene.
  have letGo : (∃ layer ∈ scene.layers, layer.url = url) →
      ((v.retain scene).keeps url = false ↔ v.keeps url = false) := by
    rintro ⟨layer, planned, rfl⟩
    have named := (Scene.names_of_mem_layers planned).1
    rw [← Bool.not_eq_true, keeps_retain, ← Bool.not_eq_true]
    simp [named]
  rw [render, mem_fetched_loadAll_iff]
  exact and_congr_left letGo

/-- A mesh stays as long as its URL is named by each scene. -/
theorem keeps_afterAll {viewings : List Viewing} (kept : v.keeps url)
    (named : ∀ viewing ∈ viewings, viewing.scene.names url) : (v.afterAll viewings).keeps url := by
  -- Picture by picture, from the last one back.
  induction viewings using List.reverseRecOn with
  | nil => exact kept
  | append_singleton viewings last ih =>
    have before := ih fun viewing member => named viewing (List.mem_append_left _ member)
    rw [afterAll_append, afterAll_singleton, keeps_render]
    exact .inl ⟨before, named last (by simp)⟩

/-- Nothing comes to be kept under a URL as long as it has no mesh. -/
theorem not_keeps_afterAll {viewings : List Viewing} (absent : v.keeps url = false)
    (meshless : ∀ viewing ∈ viewings, ¬ viewing.assets.HaveMesh url) :
    (v.afterAll viewings).keeps url = false := by
  -- Picture by picture, from the last one back.
  induction viewings using List.reverseRecOn with
  | nil => exact absent
  | append_singleton viewings last ih =>
    have before := ih fun viewing member => meshless viewing (List.mem_append_left _ member)
    have now := meshless last (by simp)
    rw [afterAll_append, afterAll_singleton, ← Bool.not_eq_true, keeps_render]
    simp [before, now]

/-! ### What is kept under which URL -/

/-- Each mesh is kept once, under the URL it was found at, which is not blank, and with the head
that its bytes have. -/
structure Tidy (v : Viewport) : Prop where
  /-- No two meshes are kept under one URL. -/
  once : (v.kept.map (·.1)).Nodup
  /-- Each is kept under its own URL, with its own head. -/
  own : ∀ url mesh, (url, mesh) ∈ v.kept → mesh.url = url ∧ Glb.header? mesh.bytes = .ok mesh.header
  /-- None is kept under a blank URL. -/
  present : v.keeps "" = false

namespace Tidy

/-- A viewport that keeps nothing is tidy. -/
theorem empty : Tidy {} where
  once := List.nodup_nil
  own := fun _ _ member => absurd member List.not_mem_nil
  present := rfl

/-- A viewport stays tidy when meshes are dropped. -/
theorem retain (tidy : v.Tidy) (scene : Scene) : (v.retain scene).Tidy where
  -- What is left was there before.
  once := tidy.once.sublist (List.filter_sublist.map _)
  own := fun url mesh member => tidy.own url mesh (List.mem_filter.mp member).1
  present := by
    rw [← Bool.not_eq_true, keeps_retain, tidy.present]
    simp

/-- A mesh takes the place of any other under its URL, so that none is kept twice. -/
theorem keep {mesh : Mesh} (tidy : v.Tidy) (own : mesh.url = url)
    (head : Glb.header? mesh.bytes = .ok mesh.header) (present : url ≠ "") :
    (v.keep url mesh).Tidy where
  -- The entries under other URLs stay, and a new one comes after them.
  once := by
    have others : ((v.kept.filter fun entry => entry.1 != url).map (·.1)).Nodup :=
      tidy.once.sublist (List.filter_sublist.map _)
    simp only [Viewport.keep, List.map_append, List.map_cons, List.map_nil]
    exact others.append (List.nodup_singleton _) (by simp)
  own := by
    intro at_ kept member
    -- It is an old entry under another URL, or the new one.
    simp only [Viewport.keep, List.mem_append, List.mem_filter, List.mem_singleton,
      Prod.mk.injEq] at member
    rcases member with ⟨old, _⟩ | ⟨rfl, rfl⟩
    · exact tidy.own at_ kept old
    · exact ⟨own, head⟩
  present := by
    rw [← Bool.not_eq_true, keeps_keep, tidy.present]
    simpa using present.symm

/-- A viewport stays tidy when a mesh is fetched for a URL that is not blank. -/
theorem take (tidy : v.Tidy) (present : url ≠ "") (fetched : Except BackendError Bytes) :
    (v.take url fetched).Tidy := by
  -- A mesh knows its own URL and its own head, and anything else is not kept.
  cases had : Mesh.ofFetched url fetched with
  | error fault => simpa [Viewport.take, had] using tidy
  | ok mesh =>
    obtain ⟨bytes, header, _, head, whole⟩ := Mesh.ofFetched_eq_ok_iff.mp had
    have own : mesh.url = url := by rw [whole]
    have itsHead : Glb.header? mesh.bytes = .ok mesh.header := by rw [whole, head]
    simpa [Viewport.take, had] using tidy.keep own itsHead present

/-- A viewport stays tidy when a layer is loaded. -/
theorem load (tidy : v.Tidy) (present : layer.url ≠ "") :
    (Viewport.load assets v layer).viewport.Tidy := by
  -- A mesh that is found changes nothing, and what is fetched is taken.
  cases found : v.find? layer.url with
  | some mesh => simpa [Viewport.load, found] using tidy
  | none => simpa [Viewport.load, found] using tidy.take present (assets layer.url)

/-- A viewport stays tidy when layers are loaded. -/
theorem loadAll {layers : List Layer} (tidy : v.Tidy) (present : ∀ layer ∈ layers, layer.url ≠ "") :
    (Viewport.loadAll assets v layers).viewport.Tidy := by
  -- Layer by layer, from the first.
  induction layers generalizing v with
  | nil => exact tidy
  | cons layer rest ih =>
    have first : (Viewport.load assets v layer).viewport.Tidy :=
      tidy.load (present layer List.mem_cons_self)
    exact ih first fun other member => present other (List.mem_cons_of_mem _ member)

/-- A viewport stays tidy when a picture is drawn. -/
theorem render (tidy : v.Tidy) : (v.render assets scene).viewport.Tidy :=
  -- No layer of a scene is at a blank URL.
  (tidy.retain scene).loadAll fun _ planned => (Scene.names_of_mem_layers planned).2

/-- A viewport stays tidy while pictures are drawn. -/
theorem afterAll (tidy : v.Tidy) (viewings : List Viewing) : (v.afterAll viewings).Tidy := by
  -- Picture by picture, from the last one back.
  induction viewings using List.reverseRecOn with
  | nil => exact tidy
  | append_singleton viewings last ih =>
    rw [afterAll_append, afterAll_singleton]
    exact ih.render

end Tidy

/-- While a scene is drawn only meshes that it names are kept, so never more than two. -/
theorem length_kept_le {first rest : List Layer} (tidy : v.Tidy)
    (split : scene.layers = first ++ rest) :
    (loadAll assets (v.retain scene) first).viewport.kept.length ≤ 2 := by
  -- Each URL with a mesh is named by the scene, and it names two at most.
  have planned : ∀ layer ∈ first, layer ∈ scene.layers := by
    intro layer member
    rw [split]
    exact List.mem_append_left _ member
  have once : (loadAll assets (v.retain scene) first).viewport.Tidy :=
    (tidy.retain scene).loadAll fun layer member =>
      (Scene.names_of_mem_layers (planned layer member)).2
  have named : ∀ url ∈ (loadAll assets (v.retain scene) first).viewport.kept.map (·.1),
      scene.names url := by
    intro url member
    obtain ⟨⟨_, mesh⟩, kept, rfl⟩ := List.mem_map.mp member
    -- What is kept was retained for the scene, or it was fetched for one of its layers.
    rcases keeps_loadAll.mp (keeps_iff.mpr ⟨mesh, kept⟩) with retained | ⟨fetched, _⟩
    · exact (keeps_retain.mp retained).2
    · obtain ⟨layer, isFirst, rfl⟩ := (mem_fetched_loadAll_iff.mp fetched).2
      exact (Scene.names_of_mem_layers (planned layer isFirst)).1
  simpa using Scene.length_le_of_named once.once named

/-- The layers of a scene are loaded in the order in which they are drawn. -/
theorem fetched_render {first rest : List Layer} (split : scene.layers = first ++ layer :: rest) :
    (v.render assets scene).fetched =
      (loadAll assets (v.retain scene) first).fetched ++
        (load assets (loadAll assets (v.retain scene) first).viewport layer).fetched ++
          (loadAll assets
            (load assets (loadAll assets (v.retain scene) first).viewport layer).viewport
            rest).fetched := by
  -- The layers are split at this one.
  rw [render, split, loadAll_append]
  simp only [loadAll, List.append_assoc]

/-- What is kept once a layer was loaded is still kept when the picture is finished. -/
theorem keeps_render_of_load {first rest : List Layer}
    (split : scene.layers = first ++ layer :: rest)
    (kept : (load assets (loadAll assets (v.retain scene) first).viewport layer).viewport.keeps
      url) :
    (v.render assets scene).viewport.keeps url := by
  -- The layers after it take nothing away.
  rw [render, split, loadAll_append]
  simp only [loadAll]
  exact keeps_loadAll.mpr (.inl kept)

/-- A layer that failed leaves nothing behind under its URL. -/
theorem not_keeps_render_of_failed {l : RenderedLayer} {reason : String}
    (shown : l ∈ (v.render assets scene).frame.layers) (failed : l.state = .failed reason) :
    (v.render assets scene).viewport.keeps l.layer.url = false := by
  -- We go back to the moment at which the layer failed, and on from there.
  obtain ⟨first, rest, split, loaded⟩ := exists_moment shown
  rw [loaded] at failed
  obtain ⟨absent, meshless⟩ := meshless_of_failed failed
  -- None of the layers after it can bring a mesh from there either.
  rw [render, split, loadAll_append, ← Bool.not_eq_true]
  simp only [loadAll]
  rw [keeps_loadAll]
  simp [absent, meshless]

/-- For a new viewport in which scenes are drawn one after another, while what the URLs give may
change from scene to scene, the next picture is as follows.  A layer is fetched just when nothing is
kept under its URL at the moment it is loaded, and nothing else is fetched.  Afterwards a mesh is
kept under just those URLs that are not blank, that the scene names, and under which one was kept
before or was fetched now; each once, under its own URL, with the head that its bytes have, and
never more than two of them at a time.  A URL whose layer failed is asked for again by the next
scene with a layer there, for as long as it has no mesh.  Once a layer is ready its URL is fetched
no more, up to the first scene that does not name it. -/
theorem kept_and_fetched_exactly (earlier : List Viewing) (assets : Assets) (scene : Scene) :
    let before := ({} : Viewport).afterAll earlier
    let drawn := before.render assets scene
    (∀ first layer rest, scene.layers = first ++ layer :: rest →
      let here := loadAll assets (before.retain scene) first
      let loaded := load assets here.viewport layer
      loaded.fetched = (if here.viewport.keeps layer.url then [] else [layer.url]) ∧
      drawn.fetched =
        here.fetched ++ loaded.fetched ++ (loadAll assets loaded.viewport rest).fetched) ∧
    (∀ url ∈ drawn.fetched, ∃ layer ∈ scene.layers, layer.url = url) ∧
    (∀ url, drawn.viewport.keeps url ↔
      url ≠ "" ∧
      (∃ raw, (scene.base = some raw ∨ scene.preview = some raw) ∧ Text.trim raw = url) ∧
      (before.keeps url ∨ url ∈ drawn.fetched ∧ assets.HaveMesh url)) ∧
    (drawn.viewport.kept.map (·.1)).Nodup ∧
    (∀ url mesh, (url, mesh) ∈ drawn.viewport.kept →
      mesh.url = url ∧ Glb.header? mesh.bytes = .ok mesh.header) ∧
    (∀ first rest, scene.layers = first ++ rest →
      (loadAll assets (before.retain scene) first).viewport.kept.length ≤ 2) ∧
    (∀ l reason, l ∈ drawn.frame.layers → l.state = .failed reason →
      ∀ (between : List Viewing) (later : Viewing),
        (∀ viewing ∈ between, ¬ viewing.assets.HaveMesh l.layer.url) →
        (∃ layer ∈ later.scene.layers, layer.url = l.layer.url) →
          l.layer.url ∈
            ((drawn.viewport.afterAll between).render later.assets later.scene).fetched) ∧
    ∀ first layer rest mesh, scene.layers = first ++ layer :: rest →
      let here := loadAll assets (before.retain scene) first
      let loaded := load assets here.viewport layer
      loaded.layer.state = .ready mesh →
        layer.url ∉ (loadAll assets loaded.viewport rest).fetched ∧
        ∀ (between : List Viewing) (later : Viewing),
          (∀ viewing ∈ between ++ [later], viewing.scene.names layer.url) →
          layer.url ∉
            ((drawn.viewport.afterAll between).render later.assets later.scene).fetched := by
  -- What is kept is tidy before and after; each part is then about one drawing, or about some after
  -- it.
  intro before drawn
  have tidyBefore : before.Tidy := Tidy.empty.afterAll earlier
  have tidy : drawn.viewport.Tidy := tidyBefore.render
  refine ⟨?fetchedWhen, ?fetchedWhat, ?kept, tidy.once, tidy.own, ?few, ?again, ?never⟩
  case fetchedWhen =>
    intro first layer rest split
    exact ⟨fetched_load, fetched_render split⟩
  case fetchedWhat =>
    intro url fetched
    exact (mem_fetched_render_iff.mp fetched).2
  case kept =>
    intro url
    rw [← Scene.names_iff]
    constructor
    · intro kept
      have present : url ≠ "" := by
        rintro rfl
        rw [tidy.present] at kept
        exact absurd kept (by simp)
      rcases keeps_render.mp kept with ⟨old, named⟩ | ⟨fetched, has⟩
      · exact ⟨present, named, .inl old⟩
      · obtain ⟨layer, planned, rfl⟩ := (mem_fetched_render_iff.mp fetched).2
        exact ⟨present, (Scene.names_of_mem_layers planned).1, .inr ⟨fetched, has⟩⟩
    · rintro ⟨_, named, old | fetched⟩
      · exact keeps_render.mpr (.inl ⟨old, named⟩)
      · exact keeps_render.mpr (.inr fetched)
  case few =>
    intro first rest split
    exact length_kept_le tidyBefore split
  case again =>
    intro l reason shown failed between later meshless planned
    have absent := not_keeps_render_of_failed shown failed
    exact mem_fetched_render_iff.mpr ⟨not_keeps_afterAll absent meshless, planned⟩
  case never =>
    intro first layer rest mesh split here loaded ready
    -- From the moment it is ready the mesh is kept, and what is kept is not fetched.
    have kept := keeps_of_ready ready
    refine ⟨fun fetched => ?_, fun between later named fetched => ?_⟩
    · rw [(mem_fetched_loadAll_iff.mp fetched).1] at kept
      exact absurd kept (by simp)
    · have stays : (drawn.viewport.afterAll between).keeps layer.url :=
        keeps_afterAll (keeps_render_of_load split kept) fun viewing member =>
          named viewing (List.mem_append_left _ member)
      rw [(mem_fetched_render_iff.mp fetched).1] at stays
      exact absurd stays (by simp)

/-- The fewest bytes that make a mesh: the head alone. -/
def bareMesh : Bytes := [0x67, 0x6C, 0x54, 0x46, 2, 0, 0, 0, 12, 0, 0, 0]

/-- The mesh of a box is served, and that of its faces once it has been made. -/
def boxAssets (made : Bool) : Assets := fun url =>
  if url = "/box.glb" ∨ made ∧ url = "/faces.glb" then .ok bareMesh else .error (.notFound url none)

/-- A box, named between blanks, and its faces. -/
def boxScene (mode : DisplayMode) : Scene where
  base := some " /box.glb "
  preview := some "/faces.glb"
  mode := mode

/-- The box is drawn, hidden and drawn again, and its mesh is fetched once; that of the faces, which
was missing at first, is asked for each time. -/
theorem box_is_fetched_once :
    let hidden : Viewing := ⟨boxAssets false, boxScene .highlightOnly⟩
    let again : Viewing := ⟨boxAssets true, boxScene .showBase⟩
    let drawn := ({} : Viewport).render (boxAssets false) (boxScene .showBase)
    drawn.fetched = ["/box.glb", "/faces.glb"] ∧
    (drawn.viewport.keeps "/box.glb" ↔
      "/box.glb" ≠ "" ∧
      (∃ raw, ((boxScene .showBase).base = some raw ∨ (boxScene .showBase).preview = some raw) ∧
        Text.trim raw = "/box.glb") ∧
      (({} : Viewport).keeps "/box.glb" ∨
        "/box.glb" ∈ drawn.fetched ∧ (boxAssets false).HaveMesh "/box.glb")) ∧
    drawn.viewport.kept.length ≤ 2 ∧
    "/faces.glb" ∈ ((drawn.viewport.afterAll [hidden]).render again.assets again.scene).fetched ∧
    "/box.glb" ∉ ((drawn.viewport.afterAll [hidden]).render again.assets again.scene).fetched := by
  -- The first picture is computed; what the theorem says of it then holds for the others.
  intro hidden again drawn
  have planned : (boxScene .showBase).layers =
      [] ++ ⟨.base, "/box.glb"⟩ :: [⟨.selectionPreview, "/faces.glb"⟩] := by decide
  have whole : (boxScene .showBase).layers = (boxScene .showBase).layers ++ [] := by decide
  have failed : (⟨⟨.selectionPreview, "/faces.glb"⟩,
      .failed "asset request failed: /faces.glb not found"⟩ : RenderedLayer) ∈
        drawn.frame.layers := by decide
  have missing : ∀ viewing ∈ [hidden], ¬ viewing.assets.HaveMesh "/faces.glb" := by
    rintro viewing member ⟨bytes, header, served, _⟩
    obtain rfl := List.mem_singleton.mp member
    exact absurd served (by simp [hidden, boxAssets])
  have named : ∀ viewing ∈ [hidden] ++ [again], viewing.scene.names "/box.glb" := by decide
  obtain ⟨fetchedWhen, _, kept, _, _, few, asked, never⟩ :=
    kept_and_fetched_exactly [] (boxAssets false) (boxScene .showBase)
  refine ⟨?_, kept "/box.glb", few _ [] whole, ?_, ?_⟩
  · exact (fetchedWhen _ _ _ planned).2.trans (by decide)
  · exact asked _ _ failed rfl [hidden] again missing ⟨⟨.selectionPreview, "/faces.glb"⟩, by decide⟩
  · exact (never _ _ _ ⟨"/box.glb", ⟨2, 12, none⟩, bareMesh⟩ planned (by decide)).2 [hidden] again
      named

end Viewport

end SelectorTutorial
