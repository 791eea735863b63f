import SelectorTutorial.CommandLine.Commands
import SelectorTutorial.Proofs.Backend.Detail

/-! What a program asks for when it is run, call by call, and what of that its parts ask for. -/

namespace SelectorTutorial

/-- All that a program is run against. -/
structure World where
  /-- Where the backend is. -/
  api : Api
  /-- Whether requests get through. -/
  link : Link
  /-- What the backend replies. -/
  backend : Backend
  /-- The time. -/
  now : Timestamp

/-- A request that was sent for a call, and the reply to it. -/
structure Exchanged where
  /-- The call. -/
  call : BackendCall
  /-- The request. -/
  request : Request
  /-- The reply. -/
  reply : Reply

/-- The requests among what was exchanged. -/
def Exchanged.requests (log : List Exchanged) : List Request :=
  log.map request

/-- The calls among what was exchanged. -/
def Exchanged.calls (log : List Exchanged) : List BackendCall :=
  log.map call

open Exchanged

/-- The backend is asked for something after some requests: its answers, and what was exchanged. -/
inductive Asks (w : World) (earlier : List Request) (call : BackendCall) :
    Answers → List Exchanged → Prop
  /-- No request could be sent. -/
  | unsent {error : BackendError} (refused : w.api.send w.link call = .error error) :
      Asks w earlier call (.failure error) []
  /-- A request was sent, and replied to. -/
  | sent {request : Request} (made : w.api.send w.link call = .ok request) :
      Asks w earlier call (w.api.answers (w.backend earlier request))
        [⟨call, request, w.backend earlier request⟩]

/-- A program is run after some requests: what was exchanged, and what the program ended with. -/
inductive Runs (w : World) {α : Type} :
    List Request → Script α → List Exchanged → Except String α → Prop
  | done {earlier : List Request} {value : α} : Runs w earlier (.done value) [] (.ok value)
  | fail {earlier : List Request} {message : String} :
      Runs w earlier (.fail message) [] (.error message)
  | print {earlier : List Request} {text : String} {next : Script α} {log : List Exchanged}
      {ending : Except String α} (rest : Runs w earlier next log ending) :
      Runs w earlier (.print text next) log ending
  | ask {earlier : List Request} {call : BackendCall} {next : Timestamp → Answers → Script α}
      {answers : Answers} {first log : List Exchanged} {ending : Except String α}
      (asks : Asks w earlier call answers first)
      (rest : Runs w (earlier ++ requests first) (next w.now answers) log ending) :
      Runs w earlier (.ask call next) (first ++ log) ending

/-- What a program does in a world. -/
def World.run (w : World) {α : Type} (earlier : List Request) (script : Script α) : Transcript α :=
  script.run w.api w.link w.backend w.now earlier

/-- Where nothing was asked for no request was sent. -/
@[simp]
theorem Exchanged.requests_nil : requests [] = [] := rfl

/-- The requests of two logs come one after the other. -/
@[simp]
theorem Exchanged.requests_append (log more : List Exchanged) :
    requests (log ++ more) = requests log ++ requests more :=
  -- Each exchange has its own request.
  List.map_append

/-- The calls of two logs come one after the other. -/
@[simp]
theorem Exchanged.calls_append (log more : List Exchanged) :
    calls (log ++ more) = calls log ++ calls more :=
  -- Each exchange has its own call.
  List.map_append

/-- At most so many calls, all of them of one kind. -/
structure Exchanged.AtMost (most : Nat) (kind : BackendCall → Prop) (log : List Exchanged) :
    Prop where
  /-- There are few of them. -/
  few : log.length ≤ most
  /-- Each of them is of the kind. -/
  only : ∀ e ∈ log, kind e.call

/-- No call is at most any number of calls. -/
theorem Exchanged.AtMost.nil {most : Nat} {kind : BackendCall → Prop} : AtMost most kind [] :=
  -- There is nothing to count.
  ⟨Nat.zero_le _, by simp⟩

/-! ### What the answers say of the exchange -/

namespace Asks

variable {w : World} {earlier : List Request} {call : BackendCall} {answers : Answers}
  {log : List Exchanged}

/-- Nothing else is asked for, and nothing twice. -/
theorem sublist (asks : Asks w earlier call answers log) : (calls log).Sublist [call] := by
  -- Either nothing was sent, or just this.
  cases asks with
  | unsent => exact List.nil_sublist _
  | sent => exact .refl _

/-- There is one request, or none. -/
theorem eq_nil_or_singleton (asks : Asks w earlier call answers log) :
    log = [] ∨ ∃ sent : Exchanged, sent.call = call ∧ log = [sent] := by
  -- A call whose request cannot be sent leaves no trace.
  cases asks with
  | unsent => exact .inl rfl
  | sent => exact .inr ⟨_, rfl, rfl⟩

/-- There is one call at most. -/
theorem atMost {kind : BackendCall → Prop} (asks : Asks w earlier call answers log)
    (isKind : kind call) : AtMost 1 kind log := by
  -- The log has one entry, if any, and that is of the kind.
  rcases asks.eq_nil_or_singleton with rfl | ⟨sent, rfl, rfl⟩
  · exact .nil
  · refine ⟨Nat.le_refl 1, fun e mem => ?_⟩
    rwa [List.mem_singleton.mp mem]

/-- What is answered was asked for. -/
theorem exists_of_ok {answer : call.Answer} (asks : Asks w earlier call answers log)
    (answered : answers call = .ok answer) :
    ∃ request reply, log = [⟨call, request, reply⟩] ∧ w.api.read call reply = .ok answer := by
  -- Where nothing was sent the answer is an error.
  cases asks with
  | unsent => cases answered
  | sent => exact ⟨_, _, rfl, answered⟩

/-- What is said to be missing was asked for, and the reply had status 404. -/
theorem missing {cause : BackendError} (asks : Asks w earlier call answers log)
    (told : answers call = .error cause) (missing : cause.isNotFound) :
    call.IsForOne ∧ ∃ request body, log = [⟨call, request, .response 404 body⟩] := by
  -- What cannot be sent is never said to be missing, so a reply has said it.
  cases asks with
  | unsent refused =>
    cases told
    rw [(Api.isUnsent_of_send refused).isNotFound_eq] at missing
    cases missing
  | @sent request =>
    obtain ⟨⟨body, reply⟩, isForOne⟩ := Api.isMissed_of_read told missing
    exact ⟨isForOne, request, body, by rw [reply]⟩

end Asks

namespace Runs

variable {w : World} {α β : Type} {earlier : List Request} {log : List Exchanged}

/-- Whatever a program does in a world is a run of it, with the same requests and the same end. -/
theorem exists_of_run (w : World) (earlier : List Request) (script : Script α) :
    ∃ log, Runs w earlier script log (w.run earlier script).ending ∧
      (w.run earlier script).requests = requests log := by
  -- The run follows the program; what was sent so far decides what is replied next.
  induction script generalizing earlier with
  | done value => exact ⟨[], .done, rfl⟩
  | fail message => exact ⟨[], .fail, rfl⟩
  | print text next ih =>
    obtain ⟨log, rest, same⟩ := ih earlier
    exact ⟨log, .print rest, same⟩
  | ask call next ih =>
    cases made : w.api.send w.link call with
    | error error =>
      obtain ⟨log, rest, same⟩ := ih w.now (.failure error) earlier
      have run : w.run earlier (.ask call next) = w.run earlier (next w.now (.failure error)) := by
        simp only [World.run, Script.run, made]
      rw [run]
      refine ⟨log, .ask (.unsent made) ?_, same⟩
      rwa [requests_nil, List.append_nil]
    | ok request =>
      obtain ⟨log, rest, same⟩ :=
        ih w.now (w.api.answers (w.backend earlier request)) (earlier ++ [request])
      have run : w.run earlier (.ask call next) =
          let rest := w.run (earlier ++ [request])
            (next w.now (w.api.answers (w.backend earlier request)))
          { rest with requests := request :: rest.requests } := by
        simp only [World.run, Script.run, made]
      rw [run]
      exact ⟨_ :: log, .ask (.sent made) rest, congrArg (request :: ·) same⟩

/-- A program that goes on after another one ends where that fails, or runs after it. -/
theorem of_bind {script : Script α} {next : α → Script β} {ending : Except String β}
    (runs : Runs w earlier (script.bind next) log ending) :
    (∃ message, Runs w earlier script log (.error message) ∧ ending = .error message) ∨
      ∃ first value rest, Runs w earlier script first (.ok value) ∧
        Runs w (earlier ++ requests first) (next value) rest ending ∧ log = first ++ rest := by
  -- The first program is followed to its end, with the second one behind each of its steps.
  induction script generalizing earlier log with
  | done value =>
    refine .inr ⟨[], value, log, .done, ?_, rfl⟩
    rwa [requests_nil, List.append_nil]
  | fail message =>
    cases runs
    exact .inl ⟨message, .fail, rfl⟩
  | print text script ih =>
    cases runs with
    | print rest =>
      rcases ih rest with ⟨message, failed, ends⟩ | ⟨first, value, more, here, there, split⟩
      · exact .inl ⟨message, .print failed, ends⟩
      · exact .inr ⟨first, value, more, .print here, there, split⟩
  | ask call script ih =>
    cases runs with
    | @ask _ _ _ answers asked log _ asks rest =>
      rcases ih w.now answers rest with
        ⟨message, failed, ends⟩ | ⟨first, value, more, here, there, rfl⟩
      · exact .inl ⟨message, .ask asks failed, ends⟩
      · refine .inr ⟨asked ++ first, value, more, .ask asks here, ?_, (List.append_assoc ..).symm⟩
        rwa [requests_append, ← List.append_assoc]

/-- A program runs after another one that has ended. -/
theorem bind {script : Script α} {next : α → Script β} {value : α} {first rest : List Exchanged}
    {ending : Except String β} (here : Runs w earlier script first (.ok value))
    (there : Runs w (earlier ++ requests first) (next value) rest ending) :
    Runs w earlier (script.bind next) (first ++ rest) ending := by
  -- By the first program: its end is where the second one goes on, and the requests before that are
  -- moved to the earlier ones.
  induction script generalizing earlier first with
  | done value =>
    cases here
    rwa [requests_nil, List.append_nil] at there
  | fail message => cases here
  | print text script ih =>
    cases here with
    | print here => exact .print (ih here there)
  | ask call script ih =>
    cases here with
    | ask asks here =>
      rw [List.append_assoc]
      refine .ask asks (ih _ _ here ?_)
      rwa [List.append_assoc, ← requests_append]

end Runs

/-- No program asks for more than its calls: each request was made for its call. -/
theorem Runs.made {w : World} {α : Type} {earlier : List Request} {script : Script α}
    {log : List Exchanged} {ending : Except String α} (runs : Runs w earlier script log ending) :
    ∀ e ∈ log, w.api.send w.link e.call = .ok e.request := by
  -- Each request on the way was sent for the call that was made.
  induction runs with
  | done | fail => simp
  | print _ ih => exact ih
  | ask asks _ ih =>
    cases asks with
    | unsent => exact ih
    | sent made => exact List.forall_mem_cons.mpr ⟨made, ih⟩

end SelectorTutorial
