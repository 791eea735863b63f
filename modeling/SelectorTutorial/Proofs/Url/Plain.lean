import SelectorTutorial.Proofs.Url.Segment
import SelectorTutorial.Proofs.Text.Blank
import Mathlib.Data.List.TakeWhile

/-! Names that stand for themselves wherever they stand in a URL, and texts that are cut before they
go on. -/

namespace SelectorTutorial

namespace Url

/-! ### Plain names -/

/-- A letter, a digit or a hyphen stands for itself wherever it stands in a URL. -/
def isPlain (c : Char) : Bool :=
  c.isAlphanum || c == '-'

/-- What holds of the plain ones among the first characters holds of all plain ones. -/
theorem of_isPlain (holds : Char → Bool)
    (first : ∀ n < 128, isPlain (.ofNat n) → holds (.ofNat n)) {c : Char} (plain : isPlain c) :
    holds c := by
  -- Plain characters are among the first 128, which can be gone through.
  have small : c.toNat < 128 := by
    change (decide ('A'.val ≤ c.val ∧ c.val ≤ 'Z'.val) ||
      (decide ('a'.val ≤ c.val) && decide (c.val ≤ 'z'.val)) ||
      (decide ('0'.val ≤ c.val) && decide (c.val ≤ '9'.val)) || c == '-') = true at plain
    simp only [Bool.or_eq_true, Bool.and_eq_true, decide_eq_true_eq, beq_iff_eq,
      UInt32.le_iff_toNat_le] at plain
    change c.val.toNat < 128
    -- Each range of plain characters ends among the first 128.
    rcases plain with ((⟨_, most⟩ | ⟨_, most⟩) | ⟨_, most⟩) | rfl
    · exact Nat.lt_of_le_of_lt most (by decide)
    · exact Nat.lt_of_le_of_lt most (by decide)
    · exact Nat.lt_of_le_of_lt most (by decide)
    · decide
  rw [← Char.ofNat_toNat c] at plain ⊢
  exact first c.toNat small plain

/-- All characters of a name are plain. -/
def IsPlain (name : String) : Prop :=
  ∀ c ∈ name.toList, isPlain c

instance (name : String) : Decidable (IsPlain name) :=
  decidable_of_iff (name.toList.all isPlain = true) List.all_eq_true

namespace IsPlain

variable {name : String}

/-- Nothing is encoded in a plain name. -/
theorem percentEncode_eq (plain : IsPlain name) (encoded : Char → Bool)
    (first : ∀ n < 128, isPlain (.ofNat n) → !encoded (.ofNat n)) :
    percentEncode encoded name.toList = name.toList := by
  -- No plain character is one of those that are encoded.
  have none : ∀ c ∈ name.toList, encoded c = false := by
    intro c inside
    have kept := of_isPlain (fun c => !encoded c) first (plain c inside)
    simpa using kept
  rw [percentEncode]
  -- The text is taken for any text in which nothing is encoded.
  generalize name.toList = cs at none
  induction cs with
  | nil => rfl
  | cons c cs ih =>
    obtain ⟨head, tail⟩ := List.forall_mem_cons.mp none
    rw [List.flatMap_cons, ih tail, head]
    rfl

/-- A plain name has no mark in it that cuts a text. -/
theorem dropWhile_eq (plain : IsPlain name) {p : Char → Bool}
    (first : ∀ n < 128, isPlain (.ofNat n) → p (.ofNat n)) :
    name.toList.dropWhile p = [] := by
  -- A property of all plain characters is checked on the ASCII ones.
  rw [List.dropWhile_eq_nil_iff]
  intro c inside
  exact of_isPlain p first (plain c inside)

/-- A plain name is no dot, no double dot and no drive, so it is one more segment of any path. -/
theorem descend_eq (plain : IsPlain name) (scheme : String) (segments : List String) :
    descend scheme true segments name.toList = segments ++ [name] := by
  have same : encodeSegment true name.toList = name.toList := plain.percentEncode_eq _ (by decide)
  -- Dots are no plain characters, and neither is the mark of a drive.
  have noDots : ¬ isDoubleDot name.toList := by
    rw [← same, isDoubleDot_encodeSegment_iff]
    intro dots
    exact absurd (plain '.' (by rw [dots]; simp)) (by decide)
  have noDot : ¬ isDot name.toList := by
    rw [← same, isDot_encodeSegment_iff]
    intro dot
    exact absurd (plain '.' (by rw [dot]; simp)) (by decide)
  have noDrive : ¬ isDrive name.toList := by
    intro drive
    unfold isDrive at drive
    split at drive
    · next letter mark both =>
      have plainMark : isPlain mark := plain mark (by rw [both]; simp)
      have noMark := of_isPlain (fun c => !(c == ':' || c == '|')) (by decide) plainMark
      simp_all
    · cases drive
  rw [descend, if_neg noDots, if_neg noDot, addSegment, if_neg fun drive => noDrive drive.2.2,
    String.ofList_toList]

end IsPlain

/-! ### Cutting a text that goes on -/

section Cutting

variable {α : Type} {q : α → Bool} {xs : List α}

/-- A text that is cut before its end is cut at the same place when it goes on. -/
theorem takeWhile_append_of_cut (cut : xs.dropWhile q ≠ []) (more : List α) :
    (xs ++ more).takeWhile q = xs.takeWhile q := by
  rw [List.takeWhile_append, if_neg]
  intro whole
  -- If nothing were cut, nothing would be left after the cut.
  have lengths := congrArg List.length (List.takeWhile_append_dropWhile (p := q) (l := xs))
  rw [List.length_append] at lengths
  exact cut (List.length_eq_zero_iff.mp (by omega))

/-- A text that is cut is cut at the same place when more follows. -/
theorem dropWhile_append_of_cut (cut : xs.dropWhile q ≠ []) (more : List α) :
    (xs ++ more).dropWhile q = xs.dropWhile q ++ more := by
  -- The part that is dropped ends before what follows.
  rw [List.dropWhile_append, if_neg]
  simpa using cut

/-- A text is cut at a character that cuts. -/
theorem exists_dropWhile_eq_cons (cut : xs.dropWhile q ≠ []) :
    ∃ x rest, xs.dropWhile q = x :: rest ∧ q x = false := by
  -- Dropping stops at a character that is not to be dropped.
  obtain ⟨x, rest, split⟩ := List.exists_cons_of_ne_nil cut
  refine ⟨x, rest, split, ?_⟩
  have stops := List.head?_dropWhile_not q xs
  rwa [split] at stops

variable {p : Char → Bool} {cs : List Char}

/-- A text goes on with a segment: it is empty or has a slash at its end. -/
def StartsSegment (cs : List Char) : Prop :=
  ∀ c ∈ cs.getLast?, c = '/'

/-- What is left at the end of a text goes on as the text does. -/
theorem StartsSegment.of_suffix {rest : List Char} (starts : StartsSegment cs)
    (left : rest <:+ cs) : StartsSegment rest := by
  -- The last character is the same.
  obtain ⟨front, rfl⟩ := left
  intro c last
  apply starts
  rw [List.getLast?_append, Option.mem_def.mp last]
  rfl

/-- What comes before a text with a slash at its end does not matter. -/
theorem StartsSegment.append_left (starts : StartsSegment cs) (some : cs ≠ [])
    (front : List Char) : StartsSegment (front ++ cs) := by
  -- The last character is the same.
  intro c last
  rw [List.getLast?_append, List.getLast?_eq_some_getLast some] at last
  exact starts c (by rw [List.getLast?_eq_some_getLast some]; exact last)

/-- A text with a slash at its end is cut wherever slashes cut. -/
theorem StartsSegment.dropWhile_ne_nil (starts : StartsSegment cs) (some : cs ≠ [])
    (slash : p '/' = false) : cs.dropWhile p ≠ [] := by
  -- The slash at its end is not dropped.
  intro none
  have last := cs.getLast_mem some
  have isSlash := starts (cs.getLast some) (List.getLast?_eq_some_getLast some)
  have all := List.dropWhile_eq_nil_iff.mp none (cs.getLast some) last
  rw [isSlash, slash] at all
  cases all

/-- What is put after a slash at the end of a text is a piece of its own. -/
theorem exists_pieces_append (starts : StartsSegment cs) (slash : p '/') :
    ∃ before, (cs ≠ [] → before ≠ []) ∧ ∀ last : List Char, (∀ c ∈ last, p c = false) →
      Text.pieces p (cs ++ last) = before ++ [last] := by
  -- By induction on the text, whose last character cuts.
  induction cs with
  | nil => exact ⟨[], fun some => absurd rfl some, fun last => Text.pieces_of_none⟩
  | cons c cs ih =>
    obtain ⟨before, some, split⟩ := ih (starts.of_suffix (List.suffix_cons c cs))
    by_cases cuts : p c
    · refine ⟨[] :: before, fun _ => List.cons_ne_nil _ _, fun last none => ?_⟩
      rw [List.cons_append, Text.pieces, if_pos cuts, split last none, List.cons_append]
    · -- A character that does not cut is not the last one, so a piece follows that it starts.
      have more : cs ≠ [] := by
        rintro rfl
        obtain rfl : c = '/' := starts c rfl
        exact cuts slash
      obtain ⟨first, others, rfl⟩ := List.exists_cons_of_ne_nil (some more)
      refine ⟨(c :: first) :: others, fun _ => List.cons_ne_nil _ _, fun last none => ?_⟩
      rw [List.cons_append, Text.pieces, if_neg cuts, split last none]
      rfl

end Cutting

end Url

end SelectorTutorial
