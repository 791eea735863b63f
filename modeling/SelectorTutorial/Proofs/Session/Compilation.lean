import SelectorTutorial.Proofs.Session.Exchange
import SelectorTutorial.Proofs.Session.Guard
import SelectorTutorial.Proofs.Text.Blank

/-! What is compiled of all that can be put in on the playground, and how it is sent. -/

namespace SelectorTutorial

/-- What of a URL is not sent along with a request has no bearing on whether that gets through. -/
theorem Link.carries_sent {link : Link} {url : Url} : link.carries url.sent = link.carries url := by
  -- The scheme is sent along, and a link looks at nothing else.
  cases link <;> rfl

namespace Api

variable {api : Api} {call : BackendCall} {request : Request}

/-- A request is made where there is a URL that can be asked for. -/
theorem request_eq_ok_iff : api.request call = .ok request ↔
    ∃ url, api.urlOf call = .ok url ∧ isSendable url = true ∧
      request = { method := method call, url := url.sent, body := body call } := by
  -- The URL is made first and checked after that.
  cases found : api.urlOf call with
  | error error => simp [Api.request, found, Bind.bind, Except.bind]
  | ok url =>
    rw [Api.request, found]
    change (if isSendable url then Except.ok _ else Except.error _) = _ ↔ _
    split
    · next sendable =>
      constructor
      · rintro ⟨⟩
        exact ⟨url, rfl, sendable, rfl⟩
      · rintro ⟨_, ⟨⟩, -, rfl⟩
        rfl
    · next unsendable =>
      refine iff_of_false (by simp) ?_
      rintro ⟨_, ⟨⟩, sendable, -⟩
      exact absurd sendable unsendable

/-- A request is sent where it can be made and gets through. -/
theorem send_eq_ok_iff {link : Link} :
    api.send link call = .ok request ↔
      api.request call = .ok request ∧ link.carries request.url = true := by
  -- There is at most one request to send, and the link decides on that one.
  cases made : api.request call with
  | error error => simp [send, made]
  | ok other =>
    simp only [send, made, Except.ok.injEq]
    split
    · next carried =>
      refine ⟨?_, fun same => congrArg _ same.1⟩
      rintro ⟨⟩
      exact ⟨rfl, carried⟩
    · next stopped =>
      refine iff_of_false nofun ?_
      rintro ⟨rfl, carried⟩
      exact stopped carried

/-- What goes over TLS gets through where the link is secured. -/
example :
    let asked (link : Link) := (Api.ofBase "https://backend.test/api").toOption.bind fun api =>
      (api.send link .lessons).toOption.map (·.url.text)
    asked .secured = some "https://backend.test/api/lessons" ∧ asked .up = none := by
  decide +kernel

/-- What is to be compiled is sent to one place below the base. -/
theorem send_compile_eq_ok_iff {link : Link} {source : ModelSource} :
    api.send link (.compile source) = .ok request ↔
      request.body = source.body ∧ request.method = .post ∧
        ∃ url, api.endpointUrl "/model/compile" = .ok url ∧ isSendable url = true ∧
          link.carries url = true ∧ request.url = url.sent := by
  -- The request is told by the URL and by what is to be compiled; the link looks at the URL alone.
  rw [send_eq_ok_iff, request_eq_ok_iff]
  constructor
  · rintro ⟨⟨url, found, sendable, rfl⟩, carried⟩
    exact ⟨rfl, rfl, url, found, sendable, Link.carries_sent.symm.trans carried, rfl⟩
  · obtain ⟨method, target, body⟩ := request
    rintro ⟨rfl, rfl, url, found, sendable, carried, rfl⟩
    exact ⟨⟨url, found, sendable, rfl⟩, Link.carries_sent.trans carried⟩

end Api

namespace Form

/-- What is sent of a form: a file as it is, or source text as it was typed if there is no file and
the text is not blank, or the name of an example if there is neither. -/
inductive Sends (form : Form) : RequestBody → Prop
  | file {file : Upload} (chosen : form.upload = some file) (suited : file.isSupported = true) :
      Sends form (.file "file" file)
  | source (fileless : form.upload = none) (typed : ¬ Text.IsBlank form.source) :
      Sends form (.json (.object [("source", .text form.source)]))
  | «example» {id : Example.Id} (fileless : form.upload = none) (blank : Text.IsBlank form.source)
      (chosen : form.example? = some id) :
      Sends form (.json (.object [("asset", .text id.text)]))

variable {form : Form} {body : RequestBody}

/-- What is sent is what is to be compiled, unless that is a file of the wrong kind. -/
theorem sends_iff : form.Sends body ↔ ∃ source, form.modelSource? = some source ∧
    (∀ file, source = .upload file → file.isSupported = true) ∧ body = source.body := by
  -- A file comes before a source text, and that before an example; the choice takes them in the
  -- same order.
  constructor
  · intro sends
    cases sends with
    | @file file chosen suited =>
      refine ⟨.upload file, by rw [modelSource?, chosen], ?_, rfl⟩
      rintro _ ⟨⟩
      exact suited
    | source fileless typed =>
      refine ⟨.inline form.source, ?_, nofun, rfl⟩
      rw [modelSource?, fileless]
      exact if_neg (mt Text.trim_eq_empty_iff.1 typed)
    | @«example» id fileless blank chosen =>
      refine ⟨.example id, ?_, nofun, rfl⟩
      rw [modelSource?, fileless]
      exact (if_pos (Text.trim_eq_empty_iff.2 blank)).trans (by rw [chosen]; rfl)
  · rintro ⟨source, chosen, suited, rfl⟩
    rw [modelSource?] at chosen
    split at chosen
    · next file upload =>
      cases chosen
      exact .file upload (suited file rfl)
    · next fileless =>
      split at chosen
      · next blank =>
        obtain ⟨id, selected, rfl⟩ := Option.map_eq_some_iff.1 chosen
        exact .example fileless (Text.trim_eq_empty_iff.1 blank) selected
      · next typed =>
        cases chosen
        exact .source fileless (mt Text.trim_eq_empty_iff.2 typed)

/-- Something is sent of a form that has a file of the right kind, or no file at all and either a
source text or an example. -/
theorem exists_sends_iff : (∃ body, form.Sends body) ↔
    (∃ file, form.upload = some file ∧ file.isSupported = true) ∨
      (form.upload = none ∧ (¬ Text.IsBlank form.source ∨ ∃ id, form.example? = some id)) := by
  -- A file of the wrong kind is in the way of both other inputs.
  constructor
  · rintro ⟨body, sends⟩
    cases sends with
    | file chosen suited => exact .inl ⟨_, chosen, suited⟩
    | source fileless typed => exact .inr ⟨fileless, .inl typed⟩
    | «example» fileless _ chosen => exact .inr ⟨fileless, .inr ⟨_, chosen⟩⟩
  · rintro (⟨file, chosen, suited⟩ | ⟨fileless, input⟩)
    · exact ⟨_, .file chosen suited⟩
    · by_cases blank : Text.IsBlank form.source
      · obtain ⟨id, chosen⟩ := input.resolve_left (not_not_intro blank)
        exact ⟨_, .example fileless blank chosen⟩
      · exact ⟨_, .source fileless blank⟩

end Form

namespace Session

/-! ### The requests of one call -/

namespace Reaches

variable {now : Timestamp} {api : Api} {link : Link} {number : Nat} {step : Step}
  {replies : List Reply} {x : Exchange}

/-- A call that has ended sends nothing. -/
theorem requests_of_finished (reaches : Reaches now api link number step replies x)
    {result : Result} (finished : step.2 = .finished result) : x.requests = [] := by
  -- The rules that send something are for calls that wait.
  cases reaches with
  | ended => rfl
  | left | unsent | replied => cases finished

/-- A call that waits for its last answer sends the request for it if that can be done, and no other
one. -/
theorem requests_of_last (reaches : Reaches now api link number step replies x) {on : Waiting}
    (waits : step.2 = .waiting on) (last : on.left = 1) :
    x.requests = (api.send link on.call).toOption.toList := by
  -- Whatever is answered, there is nothing left to wait for.
  have ends (s : Session) (answers : Answers) :
      ∃ result, (s.answer now answers number on).2 = .finished result := by
    cases goes : (s.goOn now answers on).2 with
    | finished result => exact ⟨result, goes⟩
    | waiting next =>
      have fewer := left_lt_of_goOn goes
      have some := next.left_pos
      omega
  cases reaches with
  | ended => cases waits
  | left sent =>
    cases waits
    rw [sent]
    rfl
  | @unsent s _ error _ _ refused rest =>
    cases waits
    obtain ⟨result, finished⟩ := ends s (.failure error)
    rw [rest.requests_of_finished finished, refused]
    rfl
  | @replied s _ _ reply _ _ sent rest =>
    cases waits
    obtain ⟨result, finished⟩ := ends s (api.answers reply)
    rw [rest.requests_of_finished finished, sent]
    rfl

end Reaches

/-- A compilation begins by asking for the one thing that is sent of the form, or it ends at once,
and nothing is sent of the form. -/
theorem begin_compile (now : Timestamp) (s : Session) :
    (∃ ticket source, (s.begin now (.playground .compile)).2 =
        .waiting (.playground (.compile ticket source)) ∧
      ∀ body, s.playground.form.Sends body ↔ body = source.body) ∨
    ((∃ result, (s.begin now (.playground .compile)).2 = .finished result) ∧
      ∀ body, ¬ s.playground.form.Sends body) := by
  -- The start of a compilation makes the same choice as what is said to be sent.
  have begins := Playground.start_begins s.playground s.shared .compile
  simp only [begin, withPlayground]
  generalize s.playground.start s.shared .compile = step at begins
  simp only [Form.sends_iff]
  cases begins with
  | @compiles source chosen suited =>
    refine .inl ⟨_, source, rfl, fun body => ⟨?_, fun same => ⟨source, chosen, suited, same⟩⟩⟩
    rintro ⟨_, chosen', -, rfl⟩
    cases chosen.symm.trans chosen'
    rfl
  | skipped lacking =>
    refine .inr ⟨⟨_, rfl⟩, ?_⟩
    rintro _ ⟨source, chosen, -⟩
    obtain ⟨-, none⟩ | ⟨⟨⟩, -⟩ := lacking
    cases none.symm.trans chosen
  | @unsupported file chosen wrong =>
    refine .inr ⟨⟨_, rfl⟩, ?_⟩
    rintro _ ⟨_, chosen', suited, -⟩
    cases chosen.symm.trans chosen'
    cases wrong.symm.trans (suited file rfl)

/-- The backend is asked to compile the one thing that is sent of the form, or nothing. -/
theorem askedFor_compile (s : Session) (now : Timestamp) (run : List Moment) :
    let asked := askedFor s.calls.length (s.stages (⟨now, .call (.playground .compile)⟩ :: run))
    (∃ source, asked = [.compile source] ∧
      ∀ body, s.playground.form.Sends body ↔ body = source.body) ∨
    (asked = [] ∧ ∀ body, ¬ s.playground.form.Sends body) := by
  -- Only the first stage may ask for something: a compilation waits once at most.
  intro asked
  let first := s.stage ⟨now, .call (.playground .compile)⟩
  have asks : asked = (first.request? s.calls.length).toList ++
      askedFor s.calls.length (first.after.stages run) := askedFor_cons ..
  have begins : first.call? = some (s.calls.length, (s.begin now (.playground .compile)).2) :=
    (Stage.of_call rfl).2
  rcases begin_compile now s with ⟨ticket, source, begun, reads⟩ | ⟨⟨result, begun⟩, unsent⟩
  · rw [begun] at begins
    refine .inl ⟨source, ?_, reads⟩
    rw [asks, (Stage.isSpent_of_waiting begins rfl).askedFor_eq,
      Stage.request?_eq_some_iff.2 ⟨_, begins, rfl⟩]
    rfl
  · rw [begun] at begins
    refine .inr ⟨?_, unsent⟩
    rw [asks, (Stage.isSpent_of_finished begins).askedFor_eq, Stage.request?, begins]
    rfl

/-- The one request of a compilation goes over the link if it can, and if there is something to be
sent of the form. -/
theorem requests_compile (s : Session) (now : Timestamp) (api : Api) (link : Link)
    (replies : List Reply) :
    let sent := (s.converse now api link (.playground .compile) replies).requests
    (∃ source, sent = (api.send link (.compile source)).toOption.toList ∧
      ∀ body, s.playground.form.Sends body ↔ body = source.body) ∨
    (sent = [] ∧ ∀ body, ¬ s.playground.form.Sends body) := by
  -- A compilation waits once at most, so there is one request over the link or none.
  intro sent
  have reaches : Reaches now api link s.calls.length (s.start now (.playground .compile)) replies
      (s.converse now api link (.playground .compile) replies) := s.reaches_converse _ replies
  rcases begin_compile now s with ⟨ticket, source, begun, reads⟩ | ⟨⟨result, begun⟩, unsent⟩
  · have sends := reaches.requests_of_last begun rfl
    exact .inl ⟨source, sends, reads⟩
  · exact .inr ⟨reaches.requests_of_finished begun, unsent⟩

/-- Of a form that has a file of the right kind, or no file and either a source text that is not
blank or an example, one thing is sent when it is to be compiled, and of any other form nothing
is.  What is sent is the file as it is, else the text as it was typed, else the name of the
example; where there is a file of the wrong kind nothing is sent in its place.  This holds for what
is asked for in any run that follows, and for the requests that go over the link, as far as the URL
can be asked for and the link carries it. -/
theorem compiles_one_input (s : Session) (now : Timestamp) (run : List Moment) (api : Api)
    (link : Link) (replies : List Reply) :
    let form := s.playground.form
    let call : Call := .playground .compile
    let asked := askedFor s.calls.length (s.stages (⟨now, .call call⟩ :: run))
    let sent := (s.converse now api link call replies).requests
    ((∃ body, form.Sends body) ↔ (∃ file, form.upload = some file ∧ file.isSupported = true) ∨
      (form.upload = none ∧ (¬ Text.IsBlank form.source ∨ ∃ id, form.example? = some id))) ∧
    (asked.length ≤ 1 ∧ (∀ request ∈ asked, ∃ source, request = .compile source) ∧
      ∀ body, body ∈ asked.map Api.body ↔ form.Sends body) ∧
    (sent.length ≤ 1 ∧ ∀ request, request ∈ sent ↔ form.Sends request.body ∧
      request.method = .post ∧ ∃ url, api.endpointUrl "/model/compile" = .ok url ∧
        Api.isSendable url = true ∧ link.carries url = true ∧ request.url = url.sent) ∧
    ∀ file, form.upload = some file → file.isSupported = false → asked = [] ∧ sent = [] := by
  intro form call asked sent
  -- The form decides what is asked for in the run, and what may go over the link.
  have asking : (∃ source, asked = [.compile source] ∧
        ∀ body, form.Sends body ↔ body = source.body) ∨
      (asked = [] ∧ ∀ body, ¬ form.Sends body) := s.askedFor_compile now run
  have sending : (∃ source, sent = (api.send link (.compile source)).toOption.toList ∧
        ∀ body, form.Sends body ↔ body = source.body) ∨
      (sent = [] ∧ ∀ body, ¬ form.Sends body) := s.requests_compile now api link replies
  refine ⟨Form.exists_sends_iff, ?asked, ?sent, ?unsuited⟩
  case asked =>
    rcases asking with ⟨source, asks, reads⟩ | ⟨asks, unsent⟩
    · rw [asks]
      exact ⟨Nat.le_refl 1, by simp, fun body => List.mem_singleton.trans (reads body).symm⟩
    · rw [asks]
      exact ⟨Nat.zero_le 1, nofun, fun body => iff_of_false nofun (unsent body)⟩
  case sent =>
    rcases sending with ⟨source, sends, reads⟩ | ⟨sends, unsent⟩
    · rw [sends]
      refine ⟨?_, fun request => ?_⟩
      · cases api.send link (.compile source) <;> simp [Except.toOption]
      · rw [reads, ← Api.send_compile_eq_ok_iff]
        cases api.send link (.compile source) <;> simp [Except.toOption, eq_comm]
    · rw [sends]
      exact ⟨Nat.zero_le 1, fun request => iff_of_false nofun fun sends => unsent _ sends.1⟩
  case unsuited =>
    intro file chosen wrong
    -- Nothing but the file itself would be sent.
    have unsent : ∀ body, ¬ form.Sends body := by
      intro body sends
      cases sends with
      | file chosen' suited =>
        cases chosen.symm.trans chosen'
        cases wrong.symm.trans suited
      | source fileless | «example» fileless => cases chosen.symm.trans fileless
    constructor
    · rcases asking with ⟨source, -, reads⟩ | ⟨asks, -⟩
      · exact absurd ((reads _).2 rfl) (unsent _)
      · exact asks
    · rcases sending with ⟨source, -, reads⟩ | ⟨sends, -⟩
      · exact absurd ((reads _).2 rfl) (unsent _)
      · exact sends

end Session

end SelectorTutorial
