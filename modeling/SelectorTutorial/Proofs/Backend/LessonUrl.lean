import SelectorTutorial.Proofs.Backend.Reply
import SelectorTutorial.Proofs.Url.Segment

/-! Where a lesson is asked for: which ids make one segment of the URL, and which share a URL. -/

namespace SelectorTutorial

namespace Url

/-- A path without the one empty segment that a slash at its end leaves. -/
def withoutEmptyLast (list : List String) : List String :=
  if list.getLast? = some "" then list.dropLast else list

/-- What is left of a path before something is pushed onto it. -/
def stem (list : List String) : List String :=
  withoutRoot (popIfEmpty list)

/-- Only the empty segment at the end is taken away, unless another empty one is all that is
left. -/
theorem stem_eq {list : List String} (other : list ≠ ["", ""]) :
    stem list = withoutEmptyLast list := by
  -- The empty segment goes first, and the root only if it is left then.
  rw [stem, withoutEmptyLast, popIfEmpty]
  by_cases ends : list.getLast? = some ""
  · obtain ⟨path, rfl⟩ := List.getLast?_eq_some_iff.mp ends
    cases path with
    | nil => rfl
    | cons head tail =>
      -- Without the empty segment at its end, the path is not the root.
      have more : head :: tail ≠ [""] := by
        intro same
        rw [same] at other
        exact other rfl
      rw [if_pos ⟨by simp, ends⟩, if_pos ends, List.dropLast_concat, withoutRoot, if_neg more]
  · have noRoot : list ≠ [""] := by
      rintro rfl
      exact ends rfl
    rw [if_neg fun both => ends both.2, if_neg ends, withoutRoot, if_neg noRoot]

/-- A plain name is pushed as it is. -/
theorem pushSegment_lessons (scheme : String) (path : List String) :
    pushSegment scheme path "lessons" = withoutRoot path ++ ["lessons"] := by
  -- None of the letters is dropped, escaped or taken for dots or a drive, whatever the scheme.
  have plain : ∀ special, percentEncode (encodedInSegment special)
      ("lessons".toList.filter fun c => !isDropped c) = "lessons".toList := by
    decide
  have noDots : isDot "lessons".toList = false ∧ isDoubleDot "lessons".toList = false := by
    decide
  have noDrive : isDrive "lessons".toList = false := by
    decide
  rw [pushSegment, if_neg (by decide)]
  simp only [plain, descend, noDots.1, noDots.2]
  simp only [Bool.false_eq_true, if_false, addSegment, noDrive, and_false, String.ofList_toList]

/-- Without a host, a path of two segments or more is marked when its first one is empty. -/
theorem authorityText_of_hostless {url : Url} {head next : String} {rest : List String}
    (hostless : url.host = none) (long : url.path = .segments (head :: next :: rest)) :
    url.authorityText = if head = "" then "/." else "" := by
  -- The mark is written by a look at the first two segments only.
  rw [authorityText, hostless, long]
  split
  · contradiction
  · next path =>
    injection path with path
    injection path with empty
    rw [if_pos empty]
  · -- The path is long enough for the mark, so its first segment is not empty.
    next short =>
    rw [if_neg]
    rintro rfl
    exact short next rest rfl

/-- What comes before a path does not depend on what is pushed onto it. -/
theorem authorityText_onto (url : Url) (special : Bool) (path : List String) {last : String}
    (named : last ≠ "") (what : Pushed) :
    ({ url with path := .segments (what.onto special (path ++ [last])) } : Url).authorityText =
      ({ url with path := .segments (path ++ [last]) } : Url).authorityText := by
  -- A host decides it alone; without one the first two segments do, and they stay.
  rw [Pushed.onto_concat]
  rcases Option.eq_none_or_eq_some url.host with hostless | ⟨host, isHost⟩
  · cases path with
    | nil => cases what <;> simp [authorityText, Pushed.ending, named, hostless]
    | cons head tail =>
      -- Whatever is pushed, at least one segment stands after the first one.
      have long : ∀ ending : List String, ending ≠ [] →
          ({ url with path := .segments (head :: tail ++ ending) } : Url).authorityText =
            if head = "" then "/." else "" := by
        intro ending some
        obtain ⟨next, rest, split⟩ := List.exists_cons_of_ne_nil
          (List.append_ne_nil_of_right_ne_nil tail some)
        have path : Path.segments (head :: tail ++ ending) = .segments (head :: next :: rest) := by
          rw [List.cons_append, split]
        exact authorityText_of_hostless hostless path
      rw [long [last] (List.cons_ne_nil _ _), long]
      cases what <;> simp [Pushed.ending]
  · simp only [authorityText, isHost, userText]

/-- Two URLs that differ in what is pushed onto one path are asked for by different texts. -/
theorem text_sent_onto_inj (url : Url) (special : Bool) (path : List String) {last : String}
    (named : last ≠ "") (what other : Pushed) :
    ({ url with path := .segments (what.onto special (path ++ [last])) } : Url).sent.text =
      ({ url with path := .segments (other.onto special (path ++ [last])) } : Url).sent.text ↔
    what = other := by
  -- The texts agree up to the path and after it.
  have same := authorityText_onto { url with user := "", password := "", fragment := none } special
    path named
  simp only [sent, text, same what, same other, String.append_left_inj, String.append_right_inj]
  exact Pushed.text_onto_inj path named

end Url

namespace Api

open Url

variable {api : Api} {list : List String}

/-- The URL of a lesson is that of the backend with `lessons` and what the id comes to at the end of
its path. -/
theorem lessonUrl_eq (carries : api.url.path = .segments list) (id : Lesson.Id) :
    api.lessonUrl id = .ok { api.url with
      path := .segments
        ((pushed id.text).onto (isSpecial api.url.scheme) (stem list ++ ["lessons"])) } := by
  -- The two segments are pushed one after the other, `lessons` first.
  have onto : pushSegment api.url.scheme (stem list ++ ["lessons"]) id.text = _ :=
    pushSegment_eq_onto (stem list) id.text (by decide) (by decide)
  simp only [lessonUrl, extend?, carries, List.foldl_cons, List.foldl_nil, pushSegment_lessons]
  rw [← stem, onto]

/-- The URL of a lesson is asked for as it is, if it can be asked for at all. -/
theorem url_of_request {call : BackendCall} {url : Url} {request : Request}
    (found : api.urlOf call = .ok url) (made : api.request call = .ok request) :
    request.url = url.sent := by
  -- The only other branch refuses to send anything.
  rw [Api.request, found] at made
  change (if isSendable url then _ else _) = _ at made
  split at made
  · cases made
    rfl
  · cases made

/-- Pushing `lessons` and an id adds `lessons` and one segment that denotes the id, just when the id
is whole and the path is not two empty segments. -/
theorem exists_segment_iff (special : Bool) (id : String) :
    (∃ segment : String, (pushed id).onto special (stem list ++ ["lessons"]) =
        withoutEmptyLast list ++ ["lessons", segment] ∧
      percentDecode segment.toList = Utf8.encode id) ↔
    IsWhole id ∧ list ≠ ["", ""] := by
  -- What the id comes to decides how long the path gets, and only a segment makes it long enough.
  have length : (stem list).length ≤ (withoutEmptyLast list).length := by
    by_cases empties : list = ["", ""]
    · subst empties
      decide
    · exact Nat.le_of_eq (congrArg List.length (stem_eq empties))
  rw [Pushed.onto_concat]
  constructor
  · rintro ⟨segment, path, denotes⟩
    -- Neither staying nor going up makes the path as long as it has to be.
    have lengths := congrArg List.length path
    cases come : pushed id with
    | nothing =>
      simp [come, Pushed.ending] at lengths
      omega
    | up =>
      simp [come, Pushed.ending] at lengths
      omega
    | segment cs =>
      rw [come] at path
      obtain ⟨same, ending⟩ := List.append_inj' path rfl
      obtain rfl : .ofList (encodeSegment special cs) = segment := by
        simpa [Pushed.ending] using ending
      rw [String.toList_ofList, Utf8.encode] at denotes
      obtain rfl : cs = id.toList := percentDecode_encodeSegment_eq_iff.mp denotes
      refine ⟨pushed_eq_segment_iff.mp come, ?_⟩
      rintro rfl
      exact absurd same (by decide)
  · rintro ⟨whole, other⟩
    rw [pushed_eq_segment_iff.mpr whole, stem_eq other]
    refine ⟨.ofList (encodeSegment special id.toList), rfl, ?_⟩
    rw [String.toList_ofList, percentDecode_encodeSegment, Utf8.encode]

/-- The URL under which a lesson is asked for differs from that of the backend in its path only.
The path is that of the backend's URL, without one empty segment at its end, followed by `lessons`
and one segment that denotes the id, just when the id is no dot or double dot and has no tab and no
line break, and the path of the backend's URL is not that of two slashes.  Two ids are asked for
under the same URL just when they come to the same; two whole ones only if they are the same id. -/
theorem lessonUrl_exactly (carries : api.url.path = .segments list) (id : Lesson.Id) :
    ∃ url, api.lessonUrl id = .ok url ∧ url = { api.url with path := url.path } ∧
      (∀ request, api.request (.lesson id) = .ok request → request.url = url.sent) ∧
      ((∃ segment : String, url.path = .segments (withoutEmptyLast list ++ ["lessons", segment]) ∧
          percentDecode segment.toList = Utf8.encode id.text) ↔
        IsWhole id.text ∧ list ≠ ["", ""]) ∧
      ∀ other otherUrl, api.lessonUrl other = .ok otherUrl →
        (url.sent.text = otherUrl.sent.text ↔ pushed id.text = pushed other.text) ∧
        (IsWhole id.text → IsWhole other.text → url.sent.text = otherUrl.sent.text →
          id = other) := by
  -- With the URL written out by what the id comes to, each part is a fact about pushing one
  -- segment.
  have found := lessonUrl_eq carries id
  refine ⟨_, found, rfl, fun request => url_of_request found, ?_, ?_⟩
  · simp only [Path.segments.injEq]
    exact exists_segment_iff (isSpecial api.url.scheme) id.text
  · intro other otherUrl foundOther
    rw [lessonUrl_eq carries other, Except.ok.injEq] at foundOther
    subst foundOther
    have same := text_sent_onto_inj api.url (isSpecial api.url.scheme) (stem list)
      (by decide : "lessons" ≠ "") (pushed id.text) (pushed other.text)
    refine ⟨same, fun whole wholeOther equal => ?_⟩
    have come := same.mp equal
    rw [pushed_eq_segment_iff.mpr whole, pushed_eq_segment_iff.mpr wholeOther,
      Pushed.segment.injEq, String.toList_inj] at come
    exact congrArg Lesson.Id.mk come

/-- The id of a lesson with marks that would end a segment. -/
def marked : Lesson.Id := ⟨"a?b#c/d"⟩

/-- A lesson with marks in its id is asked for in one segment, and not under the URL of another. -/
theorem marked_is_one_segment :
    nearby.url.path = .segments ["api", ""] ∧ IsWhole marked.text ∧ IsWhole "a" ∧
    ∃ url segment, nearby.lessonUrl marked = .ok url ∧
      url.path = .segments ["api", "lessons", segment] ∧
      percentDecode segment.toList = Utf8.encode "a?b#c/d" ∧
      (∃ request, nearby.request (.lesson marked) = .ok request ∧ request.url = url.sent) ∧
      ∃ otherUrl, nearby.lessonUrl ⟨"a"⟩ = .ok otherUrl ∧ url.sent.text ≠ otherUrl.sent.text := by
  -- The id has each of the marks that would end a path, and yet both facts apply to it.
  have whole : IsWhole marked.text := by decide
  have wholeOther : IsWhole "a" := by decide
  have carries : nearby.url.path = .segments ["api", ""] := rfl
  obtain ⟨url, found, _, asked, segment, apart⟩ := lessonUrl_exactly carries marked
  obtain ⟨segment, path, denotes⟩ := segment.mpr ⟨whole, by decide⟩
  have foundOther := lessonUrl_eq carries ⟨"a"⟩
  refine ⟨carries, whole, wholeOther, url, segment, found, path, denotes, ?_, _, foundOther, ?_⟩
  · obtain ⟨request, made⟩ : ∃ request, nearby.request (.lesson marked) = .ok request :=
      ⟨_, by rfl⟩
    exact ⟨request, made, asked request made⟩
  · intro same
    exact absurd ((apart _ _ foundOther).2 whole wholeOther same) (by decide)

/-- A backend whose URL has the path of two slashes. -/
def rootless : Api where
  base := "http://localhost//?v"
  url :=
    { scheme := "http"
      host := some (.name "localhost")
      path := .segments ["", ""]
      query := some "v/" }
  url_eq := by rfl

/-- Not every lesson is asked for in a segment of its own: a dot is passed over, a tab is left out,
and where the path of the backend's URL is two slashes `lessons` takes the place of an empty
segment. -/
theorem exists_lesson_without_segment :
    ¬ (∀ id url, nearby.lessonUrl id = .ok url →
      ∃ segment : String, url.path = .segments ["api", "lessons", segment] ∧
        percentDecode segment.toList = Utf8.encode id.text) ∧
    ¬ (∀ id other url, nearby.lessonUrl id = .ok url → nearby.lessonUrl other = .ok url →
      id = other) ∧
    ¬ ∃ url, ∃ segment : String, rootless.lessonUrl ⟨"extrude"⟩ = .ok url ∧
      url.path = .segments ["", "lessons", segment] := by
  -- One input for each way to fail: a dot, a tab, and a base whose path is two slashes.
  refine ⟨?dot, ?tab, ?root⟩
  case dot =>
    intro everySegment
    obtain ⟨segment, path, _⟩ := everySegment ⟨"."⟩ _ rfl
    cases path
  case tab =>
    intro noneShared
    have same := noneShared ⟨"a\tb"⟩ ⟨"ab"⟩ _ rfl rfl
    exact absurd same (by decide)
  case root =>
    rintro ⟨url, segment, found, path⟩
    cases found
    have lengths : 2 = 3 := congrArg (fun path : Path => path.parts.length) path
    exact absurd lengths (by decide)

end Api

end SelectorTutorial
