import SelectorTutorial.Backend.Api
import SelectorTutorial.Json.Writer

/-! What becomes of a reply: the value that was asked for, or the one kind of error that it
means. -/

namespace SelectorTutorial

namespace BackendError

/-- The kinds of errors. -/
inductive Kind where
  | unreachable
  | compileRejected
  | selectionRejected
  | notFound
  | unexpectedStatus
  | undecodable
  | invalidUrl
deriving DecidableEq, Repr

/-- The kind of an error. -/
def kind : BackendError → Kind
  | unreachable _ => .unreachable
  | compileRejected _ => .compileRejected
  | selectionRejected _ => .selectionRejected
  | notFound _ _ => .notFound
  | unexpectedStatus _ _ _ => .unexpectedStatus
  | undecodable _ _ => .undecodable
  | invalidUrl _ _ => .invalidUrl

end BackendError

namespace BackendCall

/-- A body holds the value that a call is after.  That is a JSON value of the type which the call
expects, save for an asset, which is the body itself; and a result is one of the selector that was
sent, whatever the body calls it. -/
inductive Finds : (call : BackendCall) → Bytes → call.Answer → Prop
  | lessons {body : Bytes} {json : Json} {list : LessonList}
      (parsed : Json.ofBytes? body = some json) (typed : LessonList.ofJson? json = some list) :
      Finds .lessons body list.lessons
  | examples {body : Bytes} {json : Json} {list : ExampleList}
      (parsed : Json.ofBytes? body = some json) (typed : ExampleList.ofJson? json = some list) :
      Finds .examples body list.examples
  | health {body : Bytes} {json : Json} {health : Health} (parsed : Json.ofBytes? body = some json)
      (typed : Health.ofJson? json = some health) : Finds .health body health
  | lesson {id : Lesson.Id} {body : Bytes} {json : Json} {lesson : Lesson}
      (parsed : Json.ofBytes? body = some json) (typed : Lesson.ofJson? json = some lesson) :
      Finds (.lesson id) body lesson
  | compile {source : ModelSource} {body : Bytes} {json : Json} {model : Model}
      (parsed : Json.ofBytes? body = some json) (typed : Model.ofJson? json = some model) :
      Finds (.compile source) body model
  | select {request : Selection.Request} {body : Bytes} {json : Json} {result : Selection.Result}
      (parsed : Json.ofBytes? body = some json)
      (typed : Selection.Result.ofJson? json = some result) :
      Finds (.select request) body { result with expression := request.selection }
  | asset {url : String} {body : Bytes} : Finds (.asset url) body body

/-- A body is decoded to the value that it holds, and to no other. -/
theorem decode?_eq_some_iff {call : BackendCall} {body : Bytes} {answer : call.Answer} :
    call.decode? body = some answer ↔ call.Finds body answer := by
  -- Each call parses the body and types it; an asset is taken as it comes.
  constructor
  · intro decoded
    cases call with
    | lessons =>
      obtain ⟨list, read, rfl⟩ := Option.map_eq_some_iff.mp decoded
      obtain ⟨json, parsed, typed⟩ := Option.bind_eq_some_iff.mp read
      exact .lessons parsed typed
    | examples =>
      obtain ⟨list, read, rfl⟩ := Option.map_eq_some_iff.mp decoded
      obtain ⟨json, parsed, typed⟩ := Option.bind_eq_some_iff.mp read
      exact .examples parsed typed
    | health =>
      obtain ⟨json, parsed, typed⟩ := Option.bind_eq_some_iff.mp decoded
      exact .health parsed typed
    | lesson id =>
      obtain ⟨json, parsed, typed⟩ := Option.bind_eq_some_iff.mp decoded
      exact .lesson parsed typed
    | compile source =>
      obtain ⟨json, parsed, typed⟩ := Option.bind_eq_some_iff.mp decoded
      exact .compile parsed typed
    | select request =>
      obtain ⟨result, read, rfl⟩ := Option.map_eq_some_iff.mp decoded
      obtain ⟨json, parsed, typed⟩ := Option.bind_eq_some_iff.mp read
      exact .select parsed typed
    | asset url =>
      obtain rfl : body = answer := Option.some.inj decoded
      exact .asset
  · intro found
    cases found with
    | asset => rfl
    | lessons parsed typed | examples parsed typed | select parsed typed =>
      exact Option.map_eq_some_iff.mpr ⟨_, Option.bind_eq_some_iff.mpr ⟨_, parsed, typed⟩, rfl⟩
    | health parsed typed | lesson parsed typed | compile parsed typed =>
      exact Option.bind_eq_some_iff.mpr ⟨_, parsed, typed⟩

/-- A call is for something that has a name of its own and so may be missing. -/
def IsForOne (call : BackendCall) : Prop :=
  (∃ id, call = .lesson id) ∨ (∃ request, call = .select request) ∨ ∃ url, call = .asset url

/-- A call may be told with some status that what it asks for is missing. -/
def IsMissedBy (call : BackendCall) (status : Nat) : Prop :=
  status = 404 ∧ call.IsForOne

/-- A call may be told with some status that its source cannot be compiled. -/
def IsUncompiledBy (call : BackendCall) (status : Nat) : Prop :=
  (status = 400 ∨ status = 404 ∨ status = 422) ∧ ∃ source, call = .compile source

/-- A call may be told with some status that its selector cannot be run. -/
def IsUnselectedBy (call : BackendCall) (status : Nat) : Prop :=
  (status = 400 ∨ status = 422) ∧ ∃ request, call = .select request

/-- What a refusal can amount to, and when. -/
inductive Refused (call : BackendCall) (place : String) (status : Nat) (detail : Option String) :
    BackendError → Prop
  | missing {what : String} (missed : call.IsMissedBy status) :
      Refused call place status detail (.notFound what detail)
  | uncompiled (rejected : call.IsUncompiledBy status) :
      Refused call place status detail (.compileRejected detail)
  | unselected (rejected : call.IsUnselectedBy status) :
      Refused call place status detail (.selectionRejected detail)
  | unexpected (noMiss : ¬ call.IsMissedBy status) (noSource : ¬ call.IsUncompiledBy status)
      (noSelector : ¬ call.IsUnselectedBy status) :
      Refused call place status detail (.unexpectedStatus place status detail)

/-- The backend rejects what it was given with one of two statuses. -/
theorem isRejection_iff {status : Nat} : isRejection status ↔ status = 400 ∨ status = 422 := by
  -- These are the two in the definition.
  simp [isRejection]

/-- A refusal amounts to one of these for each call and every status. -/
theorem refused_refusal (call : BackendCall) (place : String) (status : Nat)
    (detail : Option String) :
    call.Refused place status detail (call.refusal place status detail) := by
  -- By the calls: what a status means depends on the call alone, and the branches come in its
  -- order.
  cases call with
  | lessons | examples | health =>
    apply Refused.unexpected <;> simp [IsMissedBy, IsForOne, IsUncompiledBy, IsUnselectedBy]
  | lesson | asset =>
    simp only [refusal]
    split
    · next missing =>
      exact .missing ⟨missing, by simp [IsForOne]⟩
    · next here =>
      apply Refused.unexpected
      · exact fun missed => here missed.1
      · simp [IsUncompiledBy]
      · simp [IsUnselectedBy]
  | compile source =>
    simp only [refusal, notFoundStatus, isRejection_iff]
    split
    · next rejected =>
      exact .uncompiled ⟨by omega, source, rfl⟩
    · next other =>
      apply Refused.unexpected
      · simp [IsMissedBy, IsForOne]
      · rintro ⟨rejected, _⟩
        omega
      · simp [IsUnselectedBy]
  | select request =>
    simp only [refusal, notFoundStatus, isRejection_iff]
    split
    · next missing =>
      exact .missing ⟨missing, .inr (.inl ⟨request, rfl⟩)⟩
    · next here =>
      split
      · next rejected =>
        exact .unselected ⟨rejected, request, rfl⟩
      · next other =>
        apply Refused.unexpected
        · exact fun missed => here missed.1
        · simp [IsUncompiledBy]
        · exact fun rejected => other rejected.1

namespace Refused

variable {call : BackendCall} {place : String} {status : Nat} {detail : Option String}
  {error : BackendError}

/-- Whatever a refusal amounts to, it keeps what the backend said. -/
theorem detail_eq (refused : call.Refused place status detail error) : error.detail = detail := by
  -- Each kind of refusal stores the detail that it was given.
  cases refused <;> rfl

/-- A selector is rejected by no status that says that its model is missing. -/
theorem not_isUnselectedBy_of_isMissedBy (missed : call.IsMissedBy status) :
    ¬ call.IsUnselectedBy status := by
  -- The statuses are different numbers.
  rintro ⟨rejected, _⟩
  have := missed.1
  omega

/-- The kind of error tells just what the refusal was about. -/
theorem kind_iff (refused : call.Refused place status detail error) :
    (error.kind = .notFound ↔ call.IsMissedBy status) ∧
    (error.kind = .compileRejected ↔ call.IsUncompiledBy status) ∧
    (error.kind = .selectionRejected ↔ call.IsUnselectedBy status) ∧
    (error = .unexpectedStatus place status detail ↔
      ¬ call.IsMissedBy status ∧ ¬ call.IsUncompiledBy status ∧ ¬ call.IsUnselectedBy status) := by
  -- No two of the kinds go together.
  have apart : call.IsMissedBy status → ¬ call.IsUncompiledBy status := by
    rintro ⟨_, isForOne⟩ ⟨_, source, rfl⟩
    simp [IsForOne] at isForOne
  have apart' : call.IsUncompiledBy status → ¬ call.IsUnselectedBy status := by
    rintro ⟨_, source, rfl⟩ ⟨_, request, other⟩
    cases other
  cases refused with
  | missing missed =>
    simp [BackendError.kind, missed, apart missed, not_isUnselectedBy_of_isMissedBy missed]
  | uncompiled rejected =>
    have here : ¬ call.IsMissedBy status := fun missed => apart missed rejected
    simp [BackendError.kind, rejected, here, apart' rejected]
  | unselected rejected =>
    have here : ¬ call.IsMissedBy status :=
      fun missed => not_isUnselectedBy_of_isMissedBy missed rejected
    have noSource : ¬ call.IsUncompiledBy status := fun source => apart' source rejected
    simp [BackendError.kind, rejected, here, noSource]
  | unexpected noMiss noSource noSelector => simp [BackendError.kind, noMiss, noSource, noSelector]

end Refused

end BackendCall

namespace Api

/-- Statuses of success are those from 200 up to 299. -/
theorem isSuccess_iff {status : Nat} : Reply.isSuccess status ↔ 200 ≤ status ∧ status ≤ 299 := by
  -- The definition says below 300, which is up to 299.
  simp [Reply.isSuccess]
  omega

/-- What a reply means that does not hold what was asked for. -/
inductive FailsTo (api : Api) (call : BackendCall) : Reply → BackendError → Prop
  /-- There is none. -/
  | lost {reason : String} : FailsTo api call .lost (.unreachable reason)
  /-- The request was met, and the value cannot be read. -/
  | undecodable {status : Nat} {body : Option Bytes} {place reason : String}
      (success : Reply.isSuccess status = true) :
      FailsTo api call (.response status body) (.undecodable place reason)
  /-- The request was refused. -/
  | refused {status : Nat} {body : Option Bytes} {error : BackendError}
      (failure : Reply.isSuccess status = false)
      (refused : call.Refused (api.place call) status (detail? body) error) :
      FailsTo api call (.response status body) error

/-- A reply that is no answer means one of these errors. -/
theorem failsTo_of_read {api : Api} {call : BackendCall} {reply : Reply} {error : BackendError}
    (told : api.read call reply = .error error) : api.FailsTo call reply error := by
  -- The reply is lost, or read and not understood, or a refusal, in this order.
  cases reply with
  | lost =>
    cases told
    exact .lost
  | response status body =>
    cases success : Reply.isSuccess status with
    | true =>
      simp only [read, success, if_true] at told
      split at told
      · cases told
        exact .undecodable success
      · split at told <;> cases told
        exact .undecodable success
    | false =>
      simp only [read, success] at told
      cases told
      exact .refused success (call.refused_refusal _ status _)

/-- Only a reply with status 404 says that something is missing, and only one thing that was asked
for by its name. -/
theorem isMissed_of_read {api : Api} {call : BackendCall} {reply : Reply} {error : BackendError}
    (told : api.read call reply = .error error) (missing : error.isNotFound) :
    (∃ body, reply = .response 404 body) ∧ call.IsForOne := by
  cases failsTo_of_read told with
  | lost | undecodable => cases missing
  -- What a refusal amounts to is told by its status and by what was asked for.
  | @refused _ body _ _ refused =>
    cases refused with
    | missing missed =>
      obtain ⟨rfl, isForOne⟩ := missed
      exact ⟨⟨body, rfl⟩, isForOne⟩
    | uncompiled | unselected | unexpected => cases missing

/-- For each call, a reply gives the value that was asked for just when its status is one from 200
up to 299 and its body was read to the end and holds such a value; then it gives that value.  If
with such a status the body broke off or holds no such value, the reply is undecodable.  With any
other status it is a refusal, which keeps the detail of its body, where a body that broke off counts
as empty.  It says that something is missing for status 404 on a lesson, a model or an asset, that a
source was rejected for 400, 404 and 422 on a compilation, and that a selector was for 400 and 422
on a run, and tells the status in all other cases.  Without a reply the backend counts as
unreachable. -/
theorem read_classifies (api : Api) (call : BackendCall) :
    (∀ status body answer, api.read call (.response status body) = .ok answer ↔
      (200 ≤ status ∧ status ≤ 299) ∧ ∃ bytes, body = some bytes ∧ call.Finds bytes answer) ∧
    (∀ status body, 200 ≤ status → status ≤ 299 →
      (∀ bytes answer, body = some bytes → ¬ call.Finds bytes answer) →
        ∃ place reason,
          api.read call (.response status body) = .error (.undecodable place reason)) ∧
    (∀ status body, ¬ (200 ≤ status ∧ status ≤ 299) →
      ∃ error, api.read call (.response status body) = .error error ∧
        error.detail = Refusal.detail? ((body.map Utf8.decodeLossy).getD "") ∧
        (error.kind = .notFound ↔
          status = 404 ∧ ((∃ id, call = .lesson id) ∨ (∃ request, call = .select request) ∨
            ∃ url, call = .asset url)) ∧
        (error.kind = .compileRejected ↔
          (status = 400 ∨ status = 404 ∨ status = 422) ∧ ∃ source, call = .compile source) ∧
        (error.kind = .selectionRejected ↔
          (status = 400 ∨ status = 422) ∧ ∃ request, call = .select request) ∧
        (error.kind ≠ .notFound → error.kind ≠ .compileRejected → error.kind ≠ .selectionRejected →
          ∃ place, error = .unexpectedStatus place status error.detail)) ∧
    ∃ reason, api.read call .lost = .error (.unreachable reason) := by
  -- A reply is told apart by its status first, and only then by its body.
  refine ⟨?answered, ?undecodable, ?refused, "no response", rfl⟩
  case answered =>
    intro status body answer
    rw [← isSuccess_iff]
    simp only [read]
    by_cases success : Reply.isSuccess status
    · cases body with
      | none => simp [success]
      | some bytes =>
        simp only [success, if_true, true_and, Option.some.injEq, exists_eq_left']
        rw [← BackendCall.decode?_eq_some_iff]
        cases call.decode? bytes <;> simp
    · simp [success]
  case undecodable =>
    intro status body least most unfound
    have success : Reply.isSuccess status := isSuccess_iff.mpr ⟨least, most⟩
    simp only [read, success, if_true]
    cases body with
    | none => exact ⟨_, _, rfl⟩
    | some bytes =>
      have none : call.decode? bytes = none := by
        rw [Option.eq_none_iff_forall_ne_some]
        intro answer decoded
        exact unfound bytes answer rfl (BackendCall.decode?_eq_some_iff.mp decoded)
      simp only [none]
      exact ⟨_, _, rfl⟩
  case refused =>
    intro status body outside
    have failure : ¬ Reply.isSuccess status := mt isSuccess_iff.mp outside
    have refused := call.refused_refusal (api.place call) status (detail? body)
    obtain ⟨missed, uncompiled, unselected, unexpected⟩ := refused.kind_iff
    -- A body that broke off is decoded like an empty one.
    have said : detail? body = Refusal.detail? ((body.map Utf8.decodeLossy).getD "") := by
      cases body <;> rfl
    refine ⟨_, by simp only [read, failure]; rfl, refused.detail_eq.trans said, missed, uncompiled,
      unselected, fun noMiss noSource noSelector => ⟨api.place call, ?_⟩⟩
    rw [refused.detail_eq]
    exact unexpected.mpr ⟨mt missed.mpr noMiss, mt uncompiled.mpr noSource,
      mt unselected.mpr noSelector⟩

/-- A backend on this very machine. -/
def nearby : Api where
  base := "http://localhost/api"
  url := { scheme := "http", host := some (.name "localhost"), path := .segments ["api", ""] }
  url_eq := by rfl

/-- A run of a selector on a box. -/
def boxRun : BackendCall :=
  .select { model := ⟨"box"⟩, selection := "faces" }

/-- What a backend says of a selector that it cannot run. -/
def noFaces : Bytes :=
  Utf8.encode (Json.object [("detail", .text " no faces ")]).toText

/-- A run is rejected with its reason, for want of a result if the reply breaks off, and with the
bare status if a gateway is overloaded. -/
theorem run_is_rejected_with_reason :
    ¬ (200 ≤ 422 ∧ 422 ≤ 299) ∧ ¬ (200 ≤ 503 ∧ 503 ≤ 299) ∧
    (∃ error, nearby.read boxRun (.response 422 (some noFaces)) = .error error ∧
      error.kind = .selectionRejected ∧ error.detail = some "no faces") ∧
    (∃ place reason, nearby.read boxRun (.response 200 none) = .error (.undecodable place reason)) ∧
    ∃ place, nearby.read boxRun (.response 503 none) =
      .error (.unexpectedStatus place 503 none) := by
  -- All three replies come from the one classification; only the details are computed.
  obtain ⟨_, undecodable, refused, _⟩ := read_classifies nearby boxRun
  have rejected : ¬ (200 ≤ 422 ∧ 422 ≤ 299) := by decide
  have overloaded : ¬ (200 ≤ 503 ∧ 503 ≤ 299) := by decide
  refine ⟨rejected, overloaded, ?_, undecodable 200 none (by decide) (by decide) nofun, ?_⟩
  · obtain ⟨error, isError, detail, _, _, kind, _⟩ := refused 422 (some noFaces) rejected
    have reason : Refusal.detail? (Utf8.decodeLossy noFaces) = some "no faces" := by decide +kernel
    exact ⟨error, isError, kind.mpr ⟨.inr rfl, _, rfl⟩, detail.trans reason⟩
  · obtain ⟨error, isError, detail, missing, uncompiled, unselected, unexpected⟩ :=
      refused 503 none overloaded
    have nothing : error.detail = none := detail.trans (by decide +kernel)
    obtain ⟨place, told⟩ := unexpected (mt missing.mp fun missed => absurd missed.1 (by decide))
      (mt uncompiled.mp fun rejected => absurd rejected.1 (by decide))
      (mt unselected.mp fun rejected => absurd rejected.1 (by decide))
    rw [nothing] at told
    exact ⟨place, by rw [isError, told]⟩

end Api

end SelectorTutorial
