import Mathlib.Data.List.DropRight
import SelectorTutorial.Text.Blank

/-! What is left of a text when it is cut at its ends, and what occurs in it. -/

namespace SelectorTutorial

namespace Text

/-- A text is blank when it has none but blank characters. -/
def IsBlank (s : String) : Prop :=
  ∀ c ∈ s.toList, isBlank c = true

instance (s : String) : Decidable (IsBlank s) :=
  decidable_of_iff (s.toList.all isBlank = true) List.all_eq_true

section Cut

variable {α : Type} {p : α → Bool} {xs ys : List α}

/-- What is left at the front ends where something stays. -/
theorem getLast?_dropTrailing {x : α} (last : x ∈ (dropTrailing p xs).getLast?) : p x = false := by
  -- Dropping at the end stops at the first element that stays.
  obtain ⟨left, rfl⟩ := List.mem_getLast?_eq_getLast last
  exact Bool.eq_false_iff.mpr (xs.rdropWhile_last_not p left)

/-- Nothing is dropped at the end of a list whose last element stays. -/
theorem dropTrailing_eq_self (stays : ∀ x ∈ xs.getLast?, p x = false) :
    dropTrailing p xs = xs := by
  -- Dropping stops at once.
  refine List.rdropWhile_eq_self_iff.mpr fun left => ?_
  simp [stays _ (List.getLast?_eq_some_getLast left)]

/-- Whatever is to be dropped at the end of a list may be left out. -/
theorem dropTrailing_append (drops : ∀ y ∈ ys, p y = true) :
    dropTrailing p (xs ++ ys) = dropTrailing p xs := by
  -- In reverse these are the first to be dropped.
  have gone : ys.reverse.dropWhile p = [] := by simpa using drops
  rw [dropTrailing, List.reverse_append, List.dropWhile_append, gone]
  rfl

/-- What is left is the front part that ends where something stays, before what is dropped. -/
theorem dropTrailing_eq_iff :
    dropTrailing p xs = ys ↔
      (∃ tail, xs = ys ++ tail ∧ ∀ x ∈ tail, p x = true) ∧ ∀ x ∈ ys.getLast?, p x = false := by
  -- The dropped part and the part that is left put the list together again.
  constructor
  · rintro rfl
    refine ⟨⟨xs.rtakeWhile p, ?_, fun x => List.mem_rtakeWhile_imp⟩, fun x => getLast?_dropTrailing⟩
    exact List.rdropWhile_append_rtakeWhile.symm
  · rintro ⟨⟨tail, rfl, drops⟩, stays⟩
    rw [dropTrailing_append drops, dropTrailing_eq_self stays]

/-- What is left at the back begins where something stays. -/
theorem head?_dropWhile {x : α} (first : x ∈ (xs.dropWhile p).head?) : p x = false := by
  -- Dropping stops at the first element that stays.
  have stays := List.head?_dropWhile_not p xs
  rw [Option.mem_def.mp first] at stays
  simpa using stays

end Cut

/-- What is left between the ends is the part that begins and ends where something stays. -/
theorem dropAround_eq_iff {p : Char → Bool} {cs kept : List Char} :
    dropAround p cs = kept ↔
      (∃ lead tail, cs = lead ++ kept ++ tail ∧ (∀ c ∈ lead, p c = true) ∧
        ∀ c ∈ tail, p c = true) ∧
      (∀ c ∈ kept.head?, p c = false) ∧ ∀ c ∈ kept.getLast?, p c = false := by
  -- The start is dropped first, and what is dropped at the end is known then.
  rw [dropAround, dropTrailing_eq_iff]
  constructor
  · rintro ⟨⟨tail, split, drops⟩, last⟩
    refine ⟨⟨cs.takeWhile p, tail, ?_, fun c => List.mem_takeWhile_imp, drops⟩, ?_, last⟩
    · rw [List.append_assoc, ← split, List.takeWhile_append_dropWhile]
    · -- The first character that is kept is the first one that was not dropped at the start.
      intro c first
      have unmoved : c ∈ (cs.dropWhile p).head? := by
        rw [split, List.head?_append]
        simp [Option.mem_def.mp first]
      exact head?_dropWhile unmoved
  · rintro ⟨⟨lead, tail, rfl, leads, drops⟩, first, last⟩
    refine ⟨?_, last⟩
    have gone : lead.dropWhile p = [] := by simpa using leads
    rw [List.append_assoc, List.dropWhile_append, gone]
    cases kept with
    | nil =>
      -- All that there is is dropped, whichever end it is counted to.
      have none : tail.dropWhile p = [] := by simpa using drops
      exact ⟨[], by simpa using none, by simp⟩
    | cons c rest => exact ⟨tail, by simp [first c rfl], drops⟩

/-- Trimming leaves nothing of a text just when the text is blank. -/
theorem trim_eq_empty_iff {s : String} : trim s = "" ↔ IsBlank s := by
  -- The text is then nothing but what is dropped around an empty middle.
  have empty : trim s = "" ↔ dropAround isBlank s.toList = [] := by
    rw [trim, ← String.toList_inj, String.toList_ofList]
    rfl
  rw [empty, dropAround_eq_iff]
  constructor
  · rintro ⟨⟨lead, tail, split, leads, drops⟩, -⟩ c inside
    rw [split] at inside
    simp only [List.append_nil, List.mem_append] at inside
    exact inside.elim (leads c) (drops c)
  · intro blank
    exact ⟨⟨s.toList, [], by simp, blank, by simp⟩, by simp, by simp⟩

/-- What was trimmed is left alone when it is trimmed again. -/
theorem trim_trim (s : String) : trim (trim s) = trim s := by
  -- What is left begins and ends where something stays.
  have kept := dropAround_eq_iff.mp (rfl : dropAround isBlank s.toList = _)
  rw [trim, trim, String.toList_ofList]
  exact congrArg String.ofList (dropAround_eq_iff.mpr ⟨⟨[], [], by simp⟩, kept.2⟩)

/-- What trimming leaves of a text is not blank. -/
theorem not_isBlank_trim {s : String} (left : trim s ≠ "") : ¬ IsBlank (trim s) :=
  -- It would be trimmed to nothing, and it is left alone when it is trimmed again.
  fun blank =>
    left ((trim_trim s).symm.trans (trim_eq_empty_iff.mpr blank))

section Pieces

variable {p : Char → Bool} {cs : List Char}

/-- A text is cut into pieces as a list is split at some of its elements. -/
theorem pieces_eq_splitOnP : pieces p cs = cs.splitOnP p := by
  -- By induction on the text.
  induction cs with
  | nil => exact List.splitOnP_nil.symm
  | cons c cs ih =>
    obtain ⟨piece, rest, split⟩ := List.exists_cons_of_ne_nil (List.splitOnP_ne_nil p cs)
    -- A character that does not cut goes in front of the first piece.
    rw [pieces, ih, List.splitOnP_cons_eq_if_modifyHead, split]
    rfl

/-- Where nothing cuts, there is one piece. -/
theorem pieces_of_none (none : ∀ c ∈ cs, p c = false) : pieces p cs = [cs] := by
  -- The pieces are those of the library's split, which finds no place to cut.
  rw [pieces_eq_splitOnP, List.splitOnP_eq_singleton none]

/-- Around a character that cuts the pieces are those before it and those after it. -/
theorem pieces_append {first rest : List Char} {c : Char} (cuts : p c = true) :
    pieces p (first ++ c :: rest) = pieces p first ++ pieces p rest := by
  -- The pieces are those of the library's split.
  simp only [pieces_eq_splitOnP, List.splitOnP_append_cons first rest cuts]

/-- Up to the first character that cuts is the first piece, and after it come the others. -/
theorem pieces_append_cons {first rest : List Char} {c : Char} (none : ∀ c ∈ first, p c = false)
    (cuts : p c = true) : pieces p (first ++ c :: rest) = first :: pieces p rest := by
  -- The part before the cut is one piece.
  rw [pieces_append cuts, pieces_of_none none, List.singleton_append]

/-- Characters that are exchanged are exchanged in the pieces, which are cut where they cut now. -/
theorem pieces_map (f : Char → Char) :
    pieces p (cs.map f) = (pieces (p ∘ f) cs).map (List.map f) := by
  -- Character by character: it cuts, or joins the first of the pieces that follow.
  induction cs with
  | nil => rfl
  | cons c cs ih =>
    rw [List.map_cons, pieces, pieces, ih]
    by_cases cuts : p (f c) = true
    · simp [cuts]
    · cases pieces (p ∘ f) cs <;> simp [cuts]

/-- The pieces are made of the characters that do not cut, in their order. -/
theorem flatten_pieces : (pieces p cs).flatten = cs.filter fun c => !p c := by
  -- By induction on the text.
  induction cs with
  | nil => rfl
  | cons c cs ih =>
    rw [pieces]
    by_cases cuts : p c = true
    · simp [cuts, ih]
    · -- A character that does not cut is the first one of the first piece.
      cases split : pieces p cs with
      | nil => simp_all
      | cons piece rest => simp_all

/-- A character of a piece is one of the text, and does not cut. -/
theorem of_mem_pieces {piece : List Char} {c : Char} (inside : piece ∈ pieces p cs)
    (mem : c ∈ piece) : c ∈ cs ∧ p c = false := by
  -- The pieces together are what is left of the text without the characters that cut.
  have member := List.mem_flatten.mpr ⟨piece, inside, mem⟩
  rw [flatten_pieces, List.mem_filter] at member
  simpa using member

end Pieces

/-- One list of characters occurs in another just when it is a stretch of it. -/
theorem occurs_iff {part cs : List Char} : occurs part cs = true ↔ part <:+: cs := by
  -- Position by position: the part is a prefix here, or occurs later.
  induction cs with
  | nil => simp [occurs]
  | cons c cs ih =>
    rw [occurs, Bool.or_eq_true, ih, List.isPrefixOf_iff_prefix, List.infix_cons_iff]

end Text

end SelectorTutorial
