import SelectorTutorial.Proofs.Backend.LessonUrl
import SelectorTutorial.Proofs.Url.Ending

/-! Where all lessons are asked for, and when each of them is asked for right below that. -/

namespace SelectorTutorial

namespace Url

/-- The empty segment at the end of a path is taken away, unless one is left that is taken away
too. -/
theorem stem_concat_empty_iff {front : List String} :
    stem (front ++ [""]) = front ↔ front ++ [""] ≠ ["", ""] := by
  -- Only the path of two slashes has an empty segment before its empty last one.
  by_cases empties : front ++ [""] = ["", ""]
  · have halves : front ++ [""] = [""] ++ [""] := empties
    obtain ⟨rfl, -⟩ := List.append_inj' halves rfl
    decide
  · simp [stem_eq empties, withoutEmptyLast, empties]

/-- Nothing is taken away from a path that ends with a name. -/
theorem stem_concat_of_ne {last : String} (named : last ≠ "") (front : List String) :
    stem (front ++ [last]) = front ++ [last] := by
  -- A path that ends with a name is neither that of two slashes nor one with an empty end.
  have other : front ++ [last] ≠ ["", ""] := by
    intro same
    have ends := congrArg List.getLast? same
    rw [List.getLast?_concat] at ends
    exact named (Option.some.inj ends)
  simp [stem_eq other, withoutEmptyLast, named]

/-- A path is longer with a name at its end, even without the empty segment that was there. -/
theorem stem_append_ne {list : List String} {last : String} (named : last ≠ "") :
    stem list ++ [last] ≠ list := by
  intro same
  -- Were they the same, the path would end with a name and be its own stem.
  have whole := stem_concat_of_ne named (stem list)
  rw [same] at whole
  have lengths := congrArg List.length same
  rw [whole, List.length_append, List.length_singleton] at lengths
  omega

end Url

namespace Api

open Url

variable {api : Api} {list : List String}

/-- The slash after the base is the second one of the two before a host. -/
def OpensHost (api : Api) : Prop :=
  ∃ scheme rest, scheme? (clean (api.base ++ "/")) = some (scheme, rest) ∧ Url.OpensHost rest

/-- The URL of all lessons is read from the base with the name at its end. -/
theorem urlOf_lessons {url : Url} (read : ofText none (api.base ++ "/lessons") = .ok url) :
    api.urlOf .lessons = .ok url := by
  -- This call has a fixed place, whose URL is read without any base.
  change api.endpointUrl "/lessons" = .ok url
  rw [endpointUrl, read]

/-- All lessons are asked for under the URL that goes on with `lessons` where that of the backend
ends. -/
theorem exists_lessonsUrl (noHost : ¬ api.OpensHost) :
    ∃ url, api.urlOf .lessons = .ok url ∧ Continues "lessons" api.url url := by
  -- The base with a slash was read when the backend was set up, so the name is read on from there.
  have apart : ∀ scheme rest, scheme? (clean (api.base ++ "/")) = some (scheme, rest) →
      ¬ Url.OpensHost rest := by
    intro scheme rest found opens
    exact noHost ⟨scheme, rest, found, opens⟩
  have plain : IsPlain "lessons" := by decide
  obtain ⟨url, read, continues⟩ := Reads.ofText plain api.base apart api.url api.url_eq
  rw [String.append_assoc] at read
  exact ⟨url, urlOf_lessons read, continues⟩

/-- Where the slash after the base is the second one of the two before a host, `lessons` is taken
for the host. -/
theorem exists_lessonsUrl_of_opensHost (carries : api.url.path = .segments list)
    (opens : api.OpensHost) :
    api.url.host = some (.name "") ∧
      ∃ url, api.urlOf .lessons = .ok url ∧ url.host = some (.name "lessons") := by
  -- The scheme is cut off in the same place with and without `lessons` behind it.
  obtain ⟨scheme, rest, found, opens⟩ := opens
  have here := clean_append (show IsPlain "" by decide) api.base
  have there := clean_append (show IsPlain "lessons" by decide) api.base
  rw [String.append_empty] at here
  rw [String.append_assoc] at there
  rcases scheme?_cases (front api.base) with schemeless | ⟨other, before, cut⟩
  · have schemelessHere := schemeless []
    rw [← String.toList_empty, ← here, found] at schemelessHere
    cases schemelessHere
  · have cutHere := cut []
    have cutThere := cut "lessons".toList
    rw [← String.toList_empty, ← here] at cutHere
    rw [← there] at cutThere
    -- The slash is the end of what stands after the scheme.
    rw [found, Option.some.injEq, Prod.mk.injEq] at cutHere
    obtain ⟨rfl, rfl⟩ := cutHere
    have read := api.url_eq
    rw [ofText_of_scheme? found] at read
    obtain ⟨host, url, readMore, hostMore⟩ := host_of_opensHost opens read carries
    rw [List.append_assoc] at readMore
    exact ⟨host, url, urlOf_lessons ((ofText_of_scheme? cutThere).trans readMore), hostMore⟩

/-- The id of a lesson is one segment after `lessons`, as it is, if all of it is plain. -/
theorem lessonUrl_of_plain (carries : api.url.path = .segments list) {id : Lesson.Id}
    (plain : IsPlain id.text) :
    api.urlOf (.lesson id) =
      .ok { api.url with path := .segments (stem list ++ ["lessons", id.text]) } := by
  -- No plain text is a dot or two, and nothing is dropped from it.
  have whole : IsWhole id.text := by
    refine ⟨?_, ?_, fun c inside => ?_⟩
    · intro dot
      exact absurd (plain '.' (by rw [dot]; decide)) (by decide)
    · intro dots
      exact absurd (plain '.' (by rw [dots]; decide)) (by decide)
    · have kept := of_isPlain (fun c => c != '\t' && c != '\n' && c != '\r') (by decide)
        (plain c inside)
      simpa [and_assoc] using kept
  have same : encodeSegment (isSpecial api.url.scheme) id.text.toList = id.text.toList := by
    have first : ∀ special n, n < 128 → isPlain (.ofNat n) →
        !encodedInSegment special (.ofNat n) := by
      decide
    exact plain.percentEncode_eq _ (first _)
  change api.lessonUrl id = _
  rw [lessonUrl_eq carries, pushed_eq_segment_iff.mpr whole, Pushed.onto, same,
    String.ofList_toList, List.append_assoc]
  rfl

/-- A lesson is asked for right below all lessons just when the URL of the backend has no query and
no fragment, its path is not that of two slashes, and the slash after its base is not the second one
of the two before a host. -/
theorem lesson_below_lessons_iff (carries : api.url.path = .segments list) (id : Lesson.Id)
    (plain : IsPlain id.text) :
    ∃ lessons lesson, api.urlOf .lessons = .ok lessons ∧ api.urlOf (.lesson id) = .ok lesson ∧
      (∀ request, api.request .lessons = .ok request → request.url = lessons.sent) ∧
      (∀ request, api.request (.lesson id) = .ok request → request.url = lesson.sent) ∧
      (lesson.sent =
          { lessons.sent with path := .segments (lessons.sent.path.parts ++ [id.text]) } ↔
        api.url.query = none ∧ api.url.fragment = none ∧ list ≠ ["", ""] ∧ ¬ api.OpensHost) := by
  -- If no host is opened, the URL of all lessons goes on with `lessons` in its path, its query or
  -- its fragment; the cases are these.
  have found := lessonUrl_of_plain carries plain
  by_cases opens : api.OpensHost
  · obtain ⟨host, lessons, foundAll, hostAll⟩ := exists_lessonsUrl_of_opensHost carries opens
    refine ⟨lessons, _, foundAll, found, fun _ => url_of_request foundAll,
      fun _ => url_of_request found, ?_⟩
    constructor
    · -- The one URL is on no host, and the other is.
      intro same
      have hosts := congrArg Url.host same
      simp only [sent, host, hostAll] at hosts
      exact absurd hosts (by decide)
    · rintro ⟨-, -, -, noHost⟩
      exact absurd opens noHost
  · obtain ⟨lessons, foundAll, continues⟩ := exists_lessonsUrl opens
    refine ⟨lessons, _, foundAll, found, fun _ => url_of_request foundAll,
      fun _ => url_of_request found, ?_⟩
    cases continues with
    | @path front path noQuery noFragment =>
      rw [carries, Path.segments.injEq] at path
      subst path
      -- The two URLs differ in their paths only.
      have paths :
          stem (front ++ [""]) ++ ["lessons", id.text] = front ++ ["lessons"] ++ [id.text] ↔
            front ++ [""] ≠ ["", ""] := by
        rw [List.append_assoc, List.singleton_append, List.append_left_inj]
        exact stem_concat_empty_iff
      simp only [sent, Path.parts, noQuery, noFragment, opens, Url.mk.injEq, Path.segments.injEq,
        paths]
      simp
    | flat path =>
      rw [carries] at path
      cases path
    | @query text query noFragment =>
      constructor
      · -- The query of the one URL is longer than that of the other.
        intro same
        have queries := congrArg Url.query same
        simp only [sent, query, Option.some.injEq] at queries
        have lengths := congrArg String.length queries
        rw [String.length_append] at lengths
        have longer : "lessons".length = 7 := by decide
        omega
      · rintro ⟨none, -⟩
        rw [query] at none
        cases none
    | @fragment text fragment =>
      constructor
      · -- In the path of all lessons, `lessons` is not there.
        intro same
        have paths := congrArg Url.path same
        simp only [sent, carries, Path.parts, Path.segments.injEq] at paths
        rw [List.append_cons, List.append_left_inj] at paths
        exact absurd paths (stem_append_ne (by decide))
      · rintro ⟨-, none, -⟩
        rw [fragment] at none
        cases none

/-- On a backend on this very machine, a lesson is asked for right below all lessons. -/
theorem extrude_below_lessons :
    nearby.url.path = .segments ["api", ""] ∧ IsPlain "extrude" ∧
    ∃ lessons lesson, nearby.urlOf .lessons = .ok lessons ∧
      nearby.urlOf (.lesson ⟨"extrude"⟩) = .ok lesson ∧
      (∃ request, nearby.request (.lesson ⟨"extrude"⟩) = .ok request ∧ request.url = lesson.sent) ∧
      lesson.sent = { lessons.sent with
        path := .segments (lessons.sent.path.parts ++ ["extrude"]) } := by
  -- The theorem is applied to this backend, whose base opens no host.
  have plain : IsPlain "extrude" := by decide
  have carries : nearby.url.path = .segments ["api", ""] := rfl
  have apart : ¬ nearby.OpensHost := by
    -- More than two slashes follow the scheme.
    rintro ⟨scheme, rest, found, slash, _, rfl⟩
    have cut : scheme? (clean (nearby.base ++ "/")) = some ("http", "//localhost/api/".toList) := by
      rfl
    rw [cut] at found
    cases found
  obtain ⟨lessons, lesson, foundAll, found, _, asked, below⟩ :=
    lesson_below_lessons_iff carries ⟨"extrude"⟩ plain
  obtain ⟨request, made⟩ : ∃ request, nearby.request (.lesson ⟨"extrude"⟩) = .ok request :=
    ⟨_, by rfl⟩
  exact ⟨carries, plain, lessons, lesson, foundAll, found, ⟨request, made, asked request made⟩,
    below.mpr ⟨rfl, rfl, by decide, apart⟩⟩

/-- A backend under a base with a query. -/
def keyed : Api where
  base := "http://localhost/api?key=1"
  url :=
    { scheme := "http"
      host := some (.name "localhost")
      path := .segments ["api"]
      query := some "key=1/" }
  url_eq := by rfl

/-- A lesson is not always asked for right below all lessons: with a query in the base, `lessons`
comes after that in the one URL and at the end of the path in the other. -/
theorem exists_lesson_elsewhere :
    ¬ ∀ (api : Api) (list : List String) (id : Lesson.Id) (lessons lesson : Url),
      api.url.path = .segments list → id.text ≠ "" → IsPlain id.text →
      api.urlOf .lessons = .ok lessons → api.urlOf (.lesson id) = .ok lesson →
      lesson.sent =
        { lessons.sent with path := .segments (lessons.sent.path.parts ++ [id.text]) } := by
  -- The query of the base shows which of the two came first.
  intro everywhere
  have below := everywhere keyed ["api"] ⟨"extrude"⟩ _ _ rfl (by decide) (by decide) rfl rfl
  exact absurd (congrArg Url.query below) (by decide)

end Api

end SelectorTutorial
