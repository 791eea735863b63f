import SelectorTutorial.Proofs.Text.Blank
import SelectorTutorial.Settings

/-! The base of the backend as settings have it: which bases are normal, and which texts are made
normal. -/

namespace SelectorTutorial

namespace Settings

/-- What stands between a scheme and the rest of a base. -/
def schemeMark : List Char :=
  "://".toList

/-- The scheme that is put in front has the mark of one. -/
theorem schemeMark_infix_http : schemeMark <:+: "http://".toList :=
  -- The letters are looked through.
  Text.occurs_iff.mp (by decide)

/-- A base is normal when no blank is at its ends, no slash ends it, and it names a scheme. -/
structure IsNormalBase (base : String) : Prop where
  /-- It does not begin with a blank. -/
  start : ∀ c ∈ base.toList.head?, isBlank c = false
  /-- It does not end with a blank. -/
  finish : ∀ c ∈ base.toList.getLast?, isBlank c = false
  /-- It does not end with a slash. -/
  slashless : base.toList.getLast? ≠ some '/'
  /-- It names a scheme. -/
  schemed : schemeMark <:+: base.toList

/-- A text ends with a blank and then slashes, with at most blanks behind them, and has more than
blanks before all that. -/
def EndsInSlashedBlank (raw : String) : Prop :=
  ∃ front blank slashes tail, raw.toList = front ++ blank :: (slashes ++ tail) ∧
    (∃ c ∈ front, isBlank c = false) ∧ isBlank blank = true ∧
    slashes ≠ [] ∧ (∀ c ∈ slashes, c = '/') ∧ ∀ c ∈ tail, isBlank c = true

/-- What is left of a text without the blanks around it and then without the slashes at its end. -/
def stem (raw : String) : List Char :=
  Text.dropTrailing (· == '/') (Text.dropAround isBlank raw.toList)

/-- What a text is made of around its stem: blanks, the stem, slashes and blanks again. -/
theorem stem_eq_iff {raw : String} {cs : List Char} :
    stem raw = cs ↔ ∃ lead slashes tail, raw.toList = lead ++ (cs ++ slashes) ++ tail ∧
      (∀ c ∈ lead, isBlank c = true) ∧ (∀ c ∈ slashes, c = '/') ∧ (∀ c ∈ tail, isBlank c = true) ∧
      (∀ c ∈ (cs ++ slashes).head?, isBlank c = false) ∧
      (∀ c ∈ (cs ++ slashes).getLast?, isBlank c = false) ∧ cs.getLast? ≠ some '/' := by
  -- What is dropped around it is blank, and what is dropped at its end after that are slashes.
  rw [stem, Text.dropTrailing_eq_iff]
  constructor
  · rintro ⟨⟨slashes, split, drops⟩, stays⟩
    obtain ⟨⟨lead, tail, around, leads, tails⟩, first, last⟩ := Text.dropAround_eq_iff.mp split
    refine ⟨lead, slashes, tail, around, leads, fun c inside => by simpa using drops c inside,
      tails, first, last, fun ends => ?_⟩
    simpa using stays '/' ends
  · rintro ⟨lead, slashes, tail, around, leads, drops, tails, first, last, slashless⟩
    refine ⟨⟨slashes, ?_, fun c inside => by simpa using drops c inside⟩, ?_⟩
    · exact Text.dropAround_eq_iff.mpr ⟨⟨lead, tail, around, leads, tails⟩, first, last⟩
    · intro c ends
      have other : c ≠ '/' := fun same => slashless (same ▸ ends)
      simpa using other

/-- What normalizing a text comes to. -/
inductive Normalizes (raw : String) : String → Prop
  /-- Nothing is left of it. -/
  | default (empty : stem raw = []) : Normalizes raw ({} : Settings).apiBase
  /-- What is left names a scheme. -/
  | kept (left : stem raw ≠ []) (schemed : schemeMark <:+: stem raw) :
      Normalizes raw (.ofList (stem raw))
  /-- What is left names no scheme. -/
  | schemeless (left : stem raw ≠ []) (schemeless : ¬ schemeMark <:+: stem raw) :
      Normalizes raw ("http://" ++ .ofList (stem raw))

/-- Normalizing comes to one of these. -/
theorem normalizes (raw : String) : Normalizes raw (normalizeBase raw) := by
  -- The three branches of the definition, told by the stem.
  have stemmed : Text.dropTrailingSlashes (Text.trim raw) = .ofList (stem raw) := by
    rw [Text.dropTrailingSlashes, Text.trim, String.toList_ofList, stem]
  rw [normalizeBase, stemmed]
  by_cases empty : stem raw = []
  · rw [if_pos (by rw [empty])]
    exact .default empty
  · rw [if_neg (by simpa using empty), String.toList_ofList (l := stem raw)]
    by_cases schemed : Text.occurs "://".toList (stem raw) = true
    · rw [if_pos schemed]
      exact .kept empty (Text.occurs_iff.mp schemed)
    · rw [if_neg schemed]
      exact .schemeless empty (mt Text.occurs_iff.mpr schemed)

/-- The base that settings begin with has no blanks. -/
theorem isBlank_of_mem_default {c : Char} (inside : c ∈ ({} : Settings).apiBase.toList) :
    isBlank c = false :=
  -- Its characters are looked through.
  Bool.eq_false_iff.mpr (List.any_eq_false.mp (by decide) c inside)

namespace Normalizes

variable {raw base : String}

/-- A stem that is not empty is the end of what its text is normalized to. -/
theorem getLast? (comes : Normalizes raw base) (left : stem raw ≠ []) :
    base.toList.getLast? = (stem raw).getLast? := by
  -- The stem is kept as it is, or put behind a scheme.
  cases comes with
  | default empty => exact absurd empty left
  | kept => rw [String.toList_ofList]
  | schemeless =>
    rw [String.toList_append, String.toList_ofList (l := stem raw),
      List.getLast?_append_of_ne_nil _ left]

/-- No text is normalized to a base that begins with a blank. -/
theorem start (comes : Normalizes raw base) : ∀ c ∈ base.toList.head?, isBlank c = false := by
  -- The stem was trimmed at its front, and a scheme begins with a letter.
  cases comes with
  | default => exact fun c first => isBlank_of_mem_default (List.mem_of_head? first)
  | kept =>
    obtain ⟨_, slashes, _, -, -, -, -, first, -⟩ := stem_eq_iff.mp (rfl : stem raw = _)
    intro c starts
    rw [String.toList_ofList] at starts
    refine first c ?_
    rw [List.head?_append]
    simp [Option.mem_def.mp starts]
  | schemeless =>
    intro c starts
    rw [String.toList_append, List.head?_append] at starts
    obtain rfl : 'h' = c := by simpa using starts
    decide

/-- No text is normalized to a base that ends with a slash. -/
theorem slashless (comes : Normalizes raw base) : base.toList.getLast? ≠ some '/' := by
  -- The base ends as the stem does, and of that all slashes were dropped.
  by_cases left : stem raw = []
  · cases comes with
    | default => decide
    | kept other | schemeless other => exact absurd left other
  · obtain ⟨_, _, _, -, -, -, -, -, -, slashless⟩ := stem_eq_iff.mp (rfl : stem raw = _)
    rw [comes.getLast? left]
    exact slashless

/-- Every text is normalized to a base that names a scheme. -/
theorem schemed (comes : Normalizes raw base) : schemeMark <:+: base.toList := by
  -- The default has a scheme, a base that is kept has one, and any other is given one.
  cases comes with
  | default => exact Text.occurs_iff.mp (by decide)
  | kept _ schemed =>
    rw [String.toList_ofList]
    exact schemed
  | schemeless =>
    rw [String.toList_append]
    exact schemeMark_infix_http.trans (List.prefix_append _ _).isInfix

/-- A text is normalized to a base that ends with a blank just when its stem does. -/
theorem finish_iff (comes : Normalizes raw base) :
    (∀ c ∈ base.toList.getLast?, isBlank c = false) ↔
      ∀ c ∈ (stem raw).getLast?, isBlank c = false := by
  -- Where the stem is empty the default comes in, which has no blanks; else the base ends as the
  -- stem does.
  by_cases left : stem raw = []
  · cases comes with
    | default =>
      have solid : ∀ c ∈ ({} : Settings).apiBase.toList.getLast?, isBlank c = false :=
        fun c last => isBlank_of_mem_default (List.mem_of_getLast? last)
      simp [left, solid]
    | kept other | schemeless other => exact absurd left other
  · rw [comes.getLast? left]

end Normalizes

/-- The stem of a text ends with a blank just when slashes were dropped behind that blank. -/
theorem endsInSlashedBlank_iff {raw : String} :
    EndsInSlashedBlank raw ↔ ¬ ∀ c ∈ (stem raw).getLast?, isBlank c = false := by
  constructor
  · rintro ⟨front, blank, slashes, tail, split, ⟨c, inside, solid⟩, isBlank, slashed, drops, tails⟩
    -- The blanks in front go to one side, and what is left before the slashes is the stem.
    have solidFront : front.dropWhile SelectorTutorial.isBlank ≠ [] := by
      intro gone
      rw [List.dropWhile_eq_nil_iff.mp gone c inside] at solid
      cases solid
    have stemmed : stem raw = front.dropWhile SelectorTutorial.isBlank ++ [blank] := by
      refine stem_eq_iff.mpr ⟨front.takeWhile SelectorTutorial.isBlank, slashes, tail, ?_,
        fun c => List.mem_takeWhile_imp, drops, tails, ?_, ?_, ?_⟩
      · rw [split, ← List.append_assoc, ← List.append_assoc, List.takeWhile_append_dropWhile]
        simp
      · intro c first
        rw [List.append_assoc, List.head?_append_of_ne_nil _ solidFront] at first
        exact Text.head?_dropWhile first
      · intro c last
        rw [List.getLast?_append_of_ne_nil _ slashed] at last
        rw [drops c (List.mem_of_getLast? last)]
        decide
      · rw [List.getLast?_concat]
        rintro ⟨⟩
        exact absurd isBlank (by decide)
    intro last
    rw [last blank (by rw [stemmed, List.getLast?_concat]; rfl)] at isBlank
    cases isBlank
  · intro ends
    simp only [not_forall, Bool.not_eq_false] at ends
    obtain ⟨blank, last, isBlank⟩ := ends
    obtain ⟨lead, slashes, tail, around, -, drops, tails, first, finish, -⟩ :=
      stem_eq_iff.mp (rfl : stem raw = _)
    obtain ⟨front, stemmed⟩ := List.getLast?_eq_some_iff.mp last
    rw [stemmed] at around first finish
    refine ⟨lead ++ front, blank, slashes, tail, ?_, ?_, isBlank, ?_, drops, tails⟩
    · simpa using around
    · -- The first character of the stem is no blank, so it is not that one.
      cases front with
      | nil =>
        rw [first blank rfl] at isBlank
        cases isBlank
      | cons c rest => exact ⟨c, by simp, first c rfl⟩
    · -- Without a slash the blank would have been trimmed.
      rintro rfl
      rw [finish blank (by simp)] at isBlank
      cases isBlank

/-- The stem of a text that is left alone by normalizing does not end with a blank. -/
theorem Normalizes.finish_of_eq {raw base : String} (comes : Normalizes raw base)
    (same : base = raw) : ∀ c ∈ (stem raw).getLast?, isBlank c = false := by
  -- By what was put in front of the stem, which leaves no room behind it.
  obtain ⟨lead, slashes, tail, around, leads, -, -, -, last, -⟩ :=
    stem_eq_iff.mp (rfl : stem raw = _)
  cases comes with
  | default empty => simp [empty]
  | kept =>
    -- The stem is the whole text, so that no slash was dropped.
    have whole : raw.toList = stem raw := by simpa using (congrArg String.toList same).symm
    have lengths := congrArg List.length (whole.symm.trans around)
    simp only [List.length_append] at lengths
    obtain rfl : slashes = [] := List.eq_nil_of_length_eq_zero (by omega)
    simpa using last
  | schemeless _ schemeless =>
    have whole : raw.toList = "http://".toList ++ stem raw := by
      simpa using (congrArg String.toList same).symm
    have front : lead = [] := by
      cases lead with
      | nil => rfl
      | cons c rest =>
        have first := congrArg List.head? (whole.symm.trans around)
        obtain rfl : 'h' = c := by simpa using first
        exact absurd (leads 'h' List.mem_cons_self) (by decide)
    -- Both the stem and the scheme are at the front of the text, so one is at the front of the
    -- other.
    have atFront : stem raw <+: "http://".toList ++ stem raw :=
      ⟨slashes ++ tail, by rw [← whole, around, front]; simp⟩
    intro c ends
    rcases List.prefix_or_prefix_of_prefix atFront (List.prefix_append _ _) with short | long
    · have solid : "http://".toList.any isBlank = false := by decide
      exact Bool.eq_false_iff.mpr
        (List.any_eq_false.mp solid c (short.subset (List.mem_of_getLast? ends)))
    · exact absurd (schemeMark_infix_http.trans long.isInfix) schemeless

/-- A base is left alone by normalizing just when it is normal. -/
theorem normalizeBase_eq_self_iff {base : String} :
    normalizeBase base = base ↔ IsNormalBase base := by
  -- A base that is left alone ends as its stem does, which no blank can follow; back, a normal base
  -- is its own stem.
  have comes := normalizes base
  constructor
  · intro same
    have finish := comes.finish_iff.mpr (comes.finish_of_eq same)
    rw [same] at comes finish
    exact ⟨comes.start, finish, comes.slashless, comes.schemed⟩
  · intro normal
    have stemmed : stem base = base.toList :=
      stem_eq_iff.mpr ⟨[], [], [], by simp, by simp, by simp, by simp,
        by simpa using normal.start, by simpa using normal.finish, normal.slashless⟩
    generalize normalizeBase base = other at comes
    cases comes with
    | default empty =>
      have schemed := normal.schemed
      rw [← stemmed, empty] at schemed
      cases List.infix_nil.mp schemed
    | kept => rw [stemmed, String.ofList_toList]
    | schemeless _ schemeless =>
      rw [stemmed] at schemeless
      exact absurd normal.schemed schemeless

/-- Normalizing leaves just the normal bases alone, and makes a text normal unless the text ends
with a blank and slashes behind it: of these the slashes are dropped, and the blank is left.  So a
text is normalized once and for all under that condition and no other.  Whatever the text, it is
normalized to a base that does not begin with a blank, does not end with a slash and names a
scheme. -/
theorem normal_iff_not_endsInSlashedBlank (raw : String) :
    (IsNormalBase (normalizeBase raw) ↔ ¬ EndsInSlashedBlank raw) ∧
    (normalizeBase (normalizeBase raw) = normalizeBase raw ↔ ¬ EndsInSlashedBlank raw) ∧
    (∀ c ∈ (normalizeBase raw).toList.head?, isBlank c = false) ∧
    (normalizeBase raw).toList.getLast? ≠ some '/' ∧
    "://".toList <:+: (normalizeBase raw).toList := by
  -- Of the four properties of a normal base only the one about its last character can fail.
  have comes := normalizes raw
  have normal : IsNormalBase (normalizeBase raw) ↔ ¬ EndsInSlashedBlank raw := by
    rw [endsInSlashedBlank_iff, not_not, ← comes.finish_iff]
    exact ⟨fun normal => normal.finish, fun finish =>
      ⟨comes.start, finish, comes.slashless, comes.schemed⟩⟩
  exact ⟨normal, normalizeBase_eq_self_iff.trans normal, comes.start, comes.slashless,
    comes.schemed⟩

/-- A blank before the last slash of a base is left at the end of it, and goes when the base is
normalized again. -/
theorem exists_base_normalized_twice :
    normalizeBase "backend.test /" = "http://backend.test " ∧
    normalizeBase (normalizeBase "backend.test /") = "http://backend.test" ∧
    ¬ IsNormalBase (normalizeBase "backend.test /") := by
  -- Both normalizations are computed.
  have once : normalizeBase "backend.test /" = "http://backend.test " := by decide
  refine ⟨once, by decide, fun normal => ?_⟩
  rw [once] at normal
  exact absurd (normal.finish ' ' (by decide)) (by decide)

end Settings

end SelectorTutorial
