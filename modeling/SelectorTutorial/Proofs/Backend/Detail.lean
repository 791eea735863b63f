import SelectorTutorial.Backend.Link
import SelectorTutorial.Proofs.Backend.Reason
import SelectorTutorial.Proofs.Backend.Reply

/-! What the backend says of its reasons, and what is shown of that. -/

namespace SelectorTutorial

namespace Refusal

/-- A body has a detail: the one member of that name, which can be kept. -/
def Details (body : String) (detail : Json) : Prop :=
  ∃ json members, Json.ofText? body = some json ∧ json.record? ["detail"] = some members ∧
    Json.membersNamed "detail" members = [detail] ∧ detail.keepable detailLevels = true

/-- What a body tells, by the kind of its detail. -/
inductive Tells (body : String) : String → Prop
  /-- The detail is a text, and says something. -/
  | text {s : String} (details : Details body (.text s)) (solid : ¬ Text.IsBlank s) :
      Tells body (Text.trim s)
  /-- The detail lists reasons, and among them some that have a message. -/
  | reasons {entries : List Json} (details : Details body (.list entries))
      (told : entries.filterMap entryMessage? ≠ []) :
      Tells body ("; ".intercalate (entries.filterMap entryMessage?))

/-- The detail of a body is what it has just one of. -/
theorem detail?_eq_some_iff_details {body reason : String} :
    detail? body = some reason ↔
      ∃ detail, Details body detail ∧ detailMessage? detail = some reason := by
  -- The text is decoded, then its members are looked at, and then their one detail.
  have field {members : List (String × Json)} :
      ((Json.defaulted "detail" kept? .null members).bind detailMessage?) = some reason ↔
        ∃ detail, Json.membersNamed "detail" members = [detail] ∧
          detail.keepable detailLevels = true ∧ detailMessage? detail = some reason := by
    rw [Json.defaulted_eq_sole?]
    -- Nothing is said of a detail that is missing, or there more than once.
    rcases Json.membersNamed "detail" members with _ | ⟨detail, _ | ⟨next, rest⟩⟩
    · simp [Json.sole?, detailMessage?]
    · by_cases kept : detail.keepable detailLevels = true <;> simp [kept?, kept]
    · simp [Json.sole?]
  simp only [detail?, Option.bind_eq_some_iff, ofJson?, Option.bind_eq_bind, field, Details]
  constructor
  · rintro ⟨json, parsed, members, recorded, detail, sole, kept, said⟩
    exact ⟨detail, ⟨json, members, parsed, recorded, sole, kept⟩, said⟩
  · rintro ⟨detail, ⟨json, members, parsed, recorded, sole, kept⟩, said⟩
    exact ⟨json, parsed, members, recorded, detail, sole, kept, said⟩

/-- What is read of a body is what it tells. -/
theorem detail?_eq_some_iff {body reason : String} :
    detail? body = some reason ↔ Tells body reason := by
  -- Both sides come down to what the detail conveys; only texts and lists of reasons convey
  -- anything.
  simp only [detail?_eq_some_iff_details, detailMessage?_eq_iff_conveys]
  constructor
  · rintro ⟨detail, details, conveys⟩
    cases conveys with
    | text solid => exact .text details solid
    | reasons lists told =>
      obtain rfl := filterMap_eq_iff_lists.mpr lists
      exact .reasons details told
  · intro tells
    cases tells with
    | text details solid => exact ⟨_, details, .text solid⟩
    | reasons details told =>
      exact ⟨_, details, .reasons (filterMap_eq_iff_lists.mp rfl) told⟩

/-- A body lists reasons, of which one alone has a message, and that message is blank. -/
def HasBlankReason (body : String) : Prop :=
  ∃ entries reason, Details body (.list entries) ∧ entries.filterMap entryMessage? = [reason] ∧
    Text.IsBlank reason

/-- Several reasons in one line are not blank, for the marks between them. -/
theorem not_isBlank_intercalate (first second : String) (rest : List String) :
    ¬ Text.IsBlank ("; ".intercalate (first :: second :: rest)) := by
  -- The semicolon between the first two reasons is no blank.
  intro blank
  have mark : ';' ∈ ("; ".intercalate (first :: second :: rest)).toList := by
    rw [String.intercalate_cons_cons, String.toList_append, String.toList_append]
    simp
  exact absurd (blank ';' mark) (by decide)

/-- What a body tells is blank only when it has one reason that is. -/
theorem Tells.hasBlankReason {body reason : String} (tells : Tells body reason)
    (blank : Text.IsBlank reason) : HasBlankReason body := by
  -- A text that is told was not blank, so it is reasons that are told, and only so many of them.
  cases tells with
  | text details solid =>
    exact absurd blank (Text.not_isBlank_trim (mt Text.trim_eq_empty_iff.mp solid))
  | @reasons entries details told =>
    -- Only one message alone has no mark beside it.
    match messages : entries.filterMap entryMessage? with
    | [] => exact absurd messages told
    | [reason] =>
      rw [messages, String.intercalate_singleton] at blank
      exact ⟨entries, reason, details, messages, blank⟩
    | first :: second :: rest =>
      rw [messages] at blank
      exact absurd blank (not_isBlank_intercalate first second rest)

/-- A body that has one reason tells it, even if it is blank. -/
theorem HasBlankReason.exists_tells {body : String} (sole : HasBlankReason body) :
    ∃ reason, Tells body reason ∧ Text.IsBlank reason := by
  -- One reason alone is joined to itself, with no mark that could make it more than blank.
  obtain ⟨entries, reason, details, messages, blank⟩ := sole
  have tells := Tells.reasons details (by simp [messages])
  rw [messages, String.intercalate_singleton] at tells
  exact ⟨reason, tells, blank⟩

/-- A blank detail is read of a body just when it has one reason, and that is blank. -/
theorem exists_blank_detail_iff {body : String} :
    (∃ reason, detail? body = some reason ∧ Text.IsBlank reason) ↔ HasBlankReason body := by
  -- What is read is what is told, so this is about bodies alone.
  simp only [detail?_eq_some_iff]
  exact ⟨fun ⟨_, tells, blank⟩ => tells.hasBlankReason blank, HasBlankReason.exists_tells⟩

end Refusal

namespace BackendError

/-- Only what the backend said can be shown and yet be blank, and not when a lesson is loaded. -/
theorem isBlank_shownIn_iff {context : Context} {error : BackendError} :
    Text.IsBlank (error.shownIn context) ↔
      context ≠ .loadLesson ∧ ∃ reason, error.detail = some reason ∧ Text.IsBlank reason := by
  -- No text that the library brings itself is blank, so a blank one was said by the backend.
  have solid : ∀ context : Context, ¬ Text.IsBlank context.fallback := by
    rintro (_ | _ | _ | _) <;> decide
  have unreached : ¬ Text.IsBlank unreachableMessage := by decide
  by_cases load : context = .loadLesson ∧ !error.isUnreachable
  · rw [shownIn, if_pos load]
    simp [load.1, solid]
  · rw [shownIn, if_neg load, userMessage]
    cases said : error.detail with
    | some reason =>
      -- What cannot be reached says nothing.
      have away : context ≠ .loadLesson := by
        rintro rfl
        cases error <;> simp_all [isUnreachable, detail]
      simp [away]
    | none => by_cases down : error.isUnreachable = true <;> simp [down, solid, unreached]

/-- What goes wrong before a request is sent. -/
inductive IsUnsent : BackendError → Prop
  /-- There is no way to the backend. -/
  | unreachable {reason : String} : IsUnsent (.unreachable reason)
  /-- There is no URL to ask. -/
  | invalidUrl {url reason : String} : IsUnsent (.invalidUrl url reason)

/-- Nobody has said anything before a request is sent. -/
theorem IsUnsent.detail_eq {error : BackendError} (unsent : error.IsUnsent) :
    error.detail = none := by
  -- An invalid URL and a link that is down are errors of this side, which carry no detail.
  cases unsent <;> rfl

/-- Nothing is known to be missing before a request is sent. -/
theorem IsUnsent.isNotFound_eq {error : BackendError} (unsent : error.IsUnsent) :
    error.isNotFound = false := by
  -- Only a reply can say that something is missing.
  cases unsent <;> rfl

end BackendError

namespace Api

variable {api : Api} {call : BackendCall} {error : BackendError}

/-- Without a URL no request is sent. -/
theorem isUnsent_of_urlOf (untold : api.urlOf call = .error error) : error.IsUnsent := by
  -- A URL is made in one of three ways; each way fails with a fault of the URL or of the base.
  have endpoint : ∀ place, api.endpointUrl place = .error error → error.IsUnsent := by
    intro place untold
    rw [endpointUrl] at untold
    split at untold <;> cases untold
    exact .unreachable
  cases call with
  | lesson id =>
    change api.lessonUrl id = _ at untold
    rw [lessonUrl] at untold
    split at untold <;> cases untold
    exact .invalidUrl
  | asset raw =>
    change api.assetUrl raw = _ at untold
    simp only [assetUrl] at untold
    split at untold
    · cases untold
      exact .invalidUrl
    · split at untold <;> cases untold
      exact .invalidUrl
  | lessons | examples | health | compile | select => exact endpoint _ untold

/-- What keeps a request from being sent goes wrong before that. -/
theorem isUnsent_of_send {link : Link} (refused : api.send link call = .error error) :
    error.IsUnsent := by
  -- There are two reasons not to send: there is no request, or no way to the backend.
  unfold send at refused
  split at refused
  · next error unmade =>
    cases refused
    cases found : api.urlOf call with
    | error cause =>
      rw [request, found] at unmade
      cases unmade
      exact isUnsent_of_urlOf found
    | ok url =>
      rw [request, found] at unmade
      change (if _ then _ else _) = _ at unmade
      split at unmade <;> cases unmade
      exact .unreachable
  · split at refused <;> cases refused
    exact .unreachable

end Api

/-- What is heard for a request: what some reply to it means, or that it could not be sent. -/
inductive Answers.IsHeard : Answers → Prop
  /-- A reply came, or was lost. -/
  | reply (api : Api) (reply : Reply) : IsHeard (api.answers reply)
  /-- No request was sent. -/
  | unsent {api : Api} {link : Link} {call : BackendCall} {error : BackendError}
      (refused : api.send link call = .error error) : IsHeard (.failure error)

/-- What is heard is a refusal whose one reason is blank. -/
def Answers.IsBlankRefusal (answers : Answers) : Prop :=
  ∃ (api : Api) (status : Nat) (body : Option Bytes),
    answers = api.answers (.response status body) ∧
    Reply.isSuccess status = false ∧ Refusal.HasBlankReason (Utf8.decodeLossy (body.getD []))

/-- The backend is heard to say something blank just when it refuses for one reason, and that is
blank. -/
theorem Answers.IsHeard.exists_blank_iff {answers : Answers} (heard : answers.IsHeard)
    {call : BackendCall} {error : BackendError} (answered : answers call = .error error) :
    (∃ reason, error.detail = some reason ∧ Text.IsBlank reason) ↔ answers.IsBlankRefusal := by
  -- A detail is heard in a refusal only: no other error has one.
  constructor
  · rintro ⟨reason, said, blank⟩
    cases heard with
    | unsent refused =>
      cases answered
      rw [(Api.isUnsent_of_send refused).detail_eq] at said
      cases said
    | reply api reply =>
      cases Api.failsTo_of_read answered with
      | lost | undecodable => cases said
      | @refused status body _ failure refused =>
        rw [refused.detail_eq] at said
        exact ⟨api, status, body, rfl, failure,
          Refusal.exists_blank_detail_iff.mp ⟨reason, said, blank⟩⟩
  · rintro ⟨api, status, body, rfl, failure, blank⟩
    cases Api.failsTo_of_read answered with
    | undecodable success => simp [success] at failure
    | refused _ refused =>
      rw [refused.detail_eq]
      exact Refusal.exists_blank_detail_iff.mpr blank

end SelectorTutorial
