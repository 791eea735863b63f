import SelectorTutorial.Navigation.Route
import SelectorTutorial.Proofs.Text.Blank

/-! Which pages are found again under their own paths. -/

namespace SelectorTutorial

namespace Route

/-- A text that can be one part of a path: there is something of it, and nothing cuts it. -/
def IsSegment (s : String) : Prop :=
  s ≠ "" ∧ '/' ∉ s.toList ∧ '?' ∉ s.toList ∧ '#' ∉ s.toList

variable {s path part : String} {id : Lesson.Id}

/-- A part of a path is a piece of what comes before the query, and not an empty one. -/
theorem mem_parts_iff :
    part ∈ parts path ↔ part ≠ "" ∧
      part.toList ∈ Text.pieces (· == '/') (path.toList.takeWhile fun c => !endsPath c) := by
  -- The parts are the pieces between slashes, of which the empty ones are dropped.
  have solid : part.toList ≠ [] ↔ part ≠ "" := not_congr String.toList_eq_nil_iff
  simp only [parts, List.mem_map, List.mem_filter, bne_iff_ne]
  constructor
  · rintro ⟨piece, ⟨inside, left⟩, rfl⟩
    exact ⟨solid.mp (by simpa using left), by simpa using inside⟩
  · rintro ⟨left, inside⟩
    exact ⟨part.toList, ⟨inside, solid.mpr left⟩, String.ofList_toList⟩

/-- All parts of a path are such texts. -/
theorem isSegment_of_mem_parts (inside : part ∈ parts path) : IsSegment part := by
  -- A piece has none of the slashes that it was cut at, and ends before any query or fragment.
  obtain ⟨left, piece⟩ := mem_parts_iff.mp inside
  have plain {c : Char} (mem : c ∈ part.toList) : (c == '/') = false ∧ endsPath c = false := by
    obtain ⟨before, uncut⟩ := Text.of_mem_pieces piece mem
    exact ⟨uncut, by simpa using List.mem_takeWhile_imp before⟩
  refine ⟨left, fun slash => ?_, fun query => ?_, fun fragment => ?_⟩
  · exact absurd (plain slash).1 (by decide)
  · exact absurd (plain query).2 (by decide)
  · exact absurd (plain fragment).2 (by decide)

/-- Such a text is the only part of itself. -/
theorem parts_of_isSegment (segment : IsSegment s) : parts s = [s] := by
  -- There is nothing in it to end the path or to cut it.
  obtain ⟨left, slash, query, fragment⟩ := segment
  have whole : s.toList.takeWhile (fun c => !endsPath c) = s.toList := by
    rw [List.takeWhile_eq_self_iff]
    intro c inside
    have noQuery : c ≠ '?' := fun same => query (same ▸ inside)
    have noFragment : c ≠ '#' := fun same => fragment (same ▸ inside)
    simp [endsPath, noQuery, noFragment]
  have uncut : Text.pieces (· == '/') s.toList = [s.toList] := by
    apply Text.pieces_of_none
    intro c inside
    exact beq_eq_false_iff_ne.mpr fun same => slash (same ▸ inside)
  simp [parts, whole, uncut, left]

/-- The path of a lesson has one part more than its id has parts. -/
theorem parts_lesson (s : String) : parts ("/lessons/" ++ s) = "lessons" :: parts s := by
  -- The path is cut at its first two slashes, and what is left is cut like the id.
  have chars : ("/lessons/" ++ s).toList.takeWhile (fun c => !endsPath c) =
      [] ++ '/' :: ("lessons".toList ++ '/' :: s.toList.takeWhile fun c => !endsPath c) := by
    rw [String.toList_append]
    rfl
  -- The first slash has nothing before it, and the second one has the name of the page.
  rw [parts, chars, Text.pieces_append_cons (by simp) rfl, Text.pieces_append_cons (by simp) rfl]
  rfl

/-- Only two parts lead to the page of a lesson. -/
theorem ofParts_eq_lesson_iff {found : List String} :
    ofParts found = lesson id ↔ found = ["lessons", id.text] := by
  -- No other branch leads to the page of a lesson.
  constructor
  · intro leads
    unfold ofParts at leads
    split at leads <;> cases leads
    rfl
  · rintro rfl
    rfl

/-- The page of a lesson is found under its path just when its id can be one part of a path. -/
theorem ofPath_path_lesson_iff : ofPath (lesson id).path = lesson id ↔ IsSegment id.text := by
  -- The path of the lesson has the name of all lessons and then the parts of the id.
  have once :
      parts ("/lessons/" ++ id.text) = ["lessons", id.text] ↔ parts id.text = [id.text] := by
    rw [parts_lesson, List.cons_inj_right]
  rw [ofPath, ofParts_eq_lesson_iff]
  refine once.trans ⟨fun sole => ?_, parts_of_isSegment⟩
  exact isSegment_of_mem_parts (by rw [sole]; exact List.mem_singleton_self _)

/-- The id of a lesson to whose page some path leads can be one part of a path. -/
theorem isSegment_of_ofPath (leads : ofPath path = lesson id) : IsSegment id.text := by
  -- The id is a part of that path.
  have found := ofParts_eq_lesson_iff.mp leads
  exact isSegment_of_mem_parts (by rw [found]; simp)

/-- The page that a path leads to is found again under its own path.  The page of a lesson is found
under its path just when its id is not empty and has no slash, no question mark and no number sign;
and all lessons that paths lead to have such ids. -/
theorem ofPath_path_exactly :
    (∀ path, ofPath (ofPath path).path = ofPath path) ∧
    (∀ id, ofPath (lesson id).path = lesson id ↔ IsSegment id.text) ∧
    ∀ path id, ofPath path = lesson id → IsSegment id.text := by
  refine ⟨fun path => ?_, fun id => ofPath_path_lesson_iff, fun path id => isSegment_of_ofPath⟩
  -- All pages but those of lessons have paths of their own.
  cases leads : ofPath path with
  | overview | playground => rfl
  | lessons named =>
    cases named with
    | none => rfl
    | some id => exact ofPath_path_lesson_iff.mpr (isSegment_of_ofPath leads)

end Route

end SelectorTutorial
