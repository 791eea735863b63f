import Mathlib.Data.List.Perm.Subperm
import SelectorTutorial.Viewport.Layer

/-! Which layers a scene has, and which URLs it names. -/

namespace SelectorTutorial

namespace Scene

variable {scene : Scene} {url : String} {layer : Layer}

/-- A scene names the two URLs that its texts hold between blanks. -/
theorem names_iff :
    scene.names url ↔
      ∃ raw, (scene.base = some raw ∨ scene.preview = some raw) ∧ Text.trim raw = url := by
  -- Either of the two texts may be missing.
  simp only [names, Bool.or_eq_true, Option.any_eq_true, beq_iff_eq, or_and_right, exists_or]

/-- The layer for a text is at the URL that the text holds, unless that is blank. -/
theorem mem_ofUrl_iff {role : Role} {raw? : Option String} :
    layer ∈ Layer.ofUrl role raw? ↔
      layer.role = role ∧ ∃ raw, raw? = some raw ∧ Text.trim raw = layer.url ∧ layer.url ≠ "" := by
  -- There is no text, or a blank one, or one that holds a URL.
  obtain ⟨part, place⟩ := layer
  cases raw? with
  | none => simp [Layer.ofUrl, Layer.present]
  | some raw =>
    by_cases blank : Text.trim raw = ""
    · have none : Layer.ofUrl role (some raw) = [] := by
        simp [Layer.ofUrl, Layer.present, blank]
      simp only [none, List.not_mem_nil, Option.some.injEq, exists_eq_left', false_iff, not_and]
      rintro _ rfl present
      exact present blank
    · have kept : Layer.ofUrl role (some raw) = [⟨role, Text.trim raw⟩] := by
        simp [Layer.ofUrl, Layer.present, blank]
      simp only [kept, List.mem_singleton, Layer.mk.injEq, Option.some.injEq, exists_eq_left']
      constructor
      · rintro ⟨rfl, rfl⟩
        exact ⟨rfl, rfl, blank⟩
      · rintro ⟨rfl, rfl, _⟩
        exact ⟨rfl, rfl⟩

/-- The model is a layer unless it is left out, and the selected shapes are one in either mode. -/
theorem mem_layers_iff :
    layer ∈ scene.layers ↔
      layer ∈ Layer.ofUrl .base scene.base ∧ scene.mode = .showBase ∨
        layer ∈ Layer.ofUrl .selectionPreview scene.preview := by
  -- Only the mode decides whether the model is left out.
  cases mode : scene.mode <;> simp [layers, Layer.plan, mode, DisplayMode.isHighlightOnly]

/-- Each layer is at one of the URLs of its scene, and not at a blank one. -/
theorem names_of_mem_layers (planned : layer ∈ scene.layers) :
    scene.names layer.url ∧ layer.url ≠ "" := by
  -- A layer is at the trimmed text that it was planned for.
  rw [mem_layers_iff, mem_ofUrl_iff, mem_ofUrl_iff] at planned
  rw [names_iff]
  rcases planned with ⟨⟨_, raw, given, trimmed, present⟩, _⟩ | ⟨_, raw, given, trimmed, present⟩
  · exact ⟨⟨raw, .inl given, trimmed⟩, present⟩
  · exact ⟨⟨raw, .inr given, trimmed⟩, present⟩

/-- The model is drawn first, and each part once. -/
theorem roles_sublist : (scene.layers.map (·.role)).Sublist [.base, .selectionPreview] := by
  -- Each text makes one layer at most, that of the model before that of the shapes.
  have once : ∀ role raw?, ((Layer.ofUrl role raw?).map (·.role)).Sublist [role] := by
    intro role raw?
    simp only [Layer.ofUrl, List.map_map]
    cases Layer.present raw? <;> simp
  have model : ((if scene.mode.isHighlightOnly then [] else Layer.ofUrl .base scene.base).map
      (·.role)).Sublist [.base] := by
    split
    · exact List.nil_sublist _
    · exact once _ _
  rw [layers, Layer.plan, List.map_append]
  exact model.append (once _ _)

/-- No more than two URLs are named by a scene. -/
theorem length_le_of_named {urls : List String} (once : urls.Nodup)
    (named : ∀ url ∈ urls, scene.names url) : urls.length ≤ 2 := by
  -- All of them stand among the two texts of the scene.
  have among : urls ⊆ (scene.base.toList ++ scene.preview.toList).map Text.trim := by
    intro url member
    obtain ⟨raw, given, trimmed⟩ := names_iff.mp (named url member)
    refine List.mem_map.mpr ⟨raw, ?_, trimmed⟩
    simpa [Option.mem_toList] using given
  calc urls.length
      ≤ ((scene.base.toList ++ scene.preview.toList).map Text.trim).length :=
        (List.subperm_of_subset once among).length_le
    _ ≤ 2 := by cases scene.base <;> cases scene.preview <;> simp

end Scene

end SelectorTutorial
