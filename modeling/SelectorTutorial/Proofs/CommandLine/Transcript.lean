import SelectorTutorial.Proofs.CommandLine.Runs

/-! What a program prints and sends, put together from what its parts print and send. -/

namespace SelectorTutorial

open Exchanged

variable {α β γ : Type}

/-- What was done, with what was printed and sent before. -/
def Transcript.after (printed : List String) (sent : List Request) (t : Transcript α) :
    Transcript α :=
  { t with printed := printed ++ t.printed, requests := sent ++ t.requests }

/-- What came before a program does not change how it ends. -/
@[simp]
theorem Transcript.ending_after (printed : List String) (sent : List Request) (t : Transcript α) :
    (t.after printed sent).ending = t.ending := rfl

/-- Nothing before a program changes nothing. -/
@[simp]
theorem Transcript.after_nil (t : Transcript α) : t.after [] [] = t := rfl

/-- What came before what came before a program came before it. -/
@[simp]
theorem Transcript.after_after (printed first : List String) (sent earlier : List Request)
    (t : Transcript α) :
    (t.after printed sent).after first earlier = t.after (first ++ printed) (earlier ++ sent) := by
  -- Lists are put together in the same order on both sides.
  simp [after]

/-- Of three programs it does not matter which two are put together first. -/
theorem Script.bind_assoc (script : Script α) (next : α → Script β) (last : β → Script γ) :
    (script.bind next).bind last = script.bind fun value => (next value).bind last := by
  -- By the first program, whose end is where both sides meet.
  induction script with
  | done value => rfl
  | fail message => rfl
  | print text rest ih => exact congrArg (print text) ih
  | ask call rest ih => exact congrArg (ask call) (funext fun time => funext fun answers =>
      ih time answers)

/-- Whatever is asked for is answered. -/
theorem Asks.exists_answers (w : World) (earlier : List Request) (call : BackendCall) :
    ∃ answers first, Asks w earlier call answers first := by
  -- A request that cannot be sent is answered with the reason for that.
  cases made : w.api.send w.link call with
  | error error => exact ⟨_, [], .unsent made⟩
  | ok request => exact ⟨_, _, .sent made⟩

variable {w : World} {earlier : List Request}

/-- A program that asks for something goes on with the answers. -/
theorem Asks.run_eq {call : BackendCall} {answers : Answers} {first : List Exchanged}
    (asks : Asks w earlier call answers first) (next : Timestamp → Answers → Script α) :
    w.run earlier (.ask call next) =
      (w.run (earlier ++ requests first) (next w.now answers)).after [] (requests first) := by
  -- Whether or not there was a request, both sides go on with the same answers.
  cases asks with
  | unsent refused => simp [World.run, Script.run, refused]
  | sent made =>
    simp only [World.run, Script.run, made]
    rfl

/-- A run is what the program does. -/
theorem Runs.run_eq {script : Script α} {log : List Exchanged} {ending : Except String α}
    (runs : Runs w earlier script log ending) :
    (w.run earlier script).ending = ending ∧ (w.run earlier script).requests = requests log := by
  -- By the run: each rule of it is one step of the program.
  induction runs with
  | done | fail => exact ⟨rfl, rfl⟩
  | print _ ih => exact ih
  | @ask earlier call next answers first log ending asks _ ih =>
    rw [asks.run_eq, Transcript.ending_after, requests_append]
    exact ⟨ih.1, congrArg (requests first ++ ·) ih.2⟩

/-- What comes of a program that goes on after another one has ended, or failed. -/
def Transcript.andThen (t : Transcript α) (next : List Request → α → Transcript β) : Transcript β :=
  match t.ending with
  | .ok value => (next t.requests value).after t.printed t.requests
  | .error message => { t with ending := .error message }

/-- What was printed and sent before stays before whatever comes next. -/
theorem Transcript.andThen_after (t : Transcript α) (printed : List String) (sent : List Request)
    (next : List Request → α → Transcript β) :
    (t.after printed sent).andThen next =
      (t.andThen fun more => next (sent ++ more)).after printed sent := by
  -- What is put before shows in the transcript and in the requests that the next program can see.
  obtain ⟨mine, theirs, ending⟩ := t
  cases ending with
  | error message => rfl
  | ok value => exact (after_after ..).symm

namespace World

/-- A program that goes on after another one does so where that ends, unless that fails. -/
theorem run_bind (script : Script α) (next : α → Script β) :
    w.run earlier (script.bind next) =
      (w.run earlier script).andThen fun sent value => w.run (earlier ++ sent) (next value) := by
  -- By the first program; what it has done is kept apart while the induction is used on its rest.
  induction script generalizing earlier with
  | done value =>
    change _ = (w.run (earlier ++ []) (next value)).after [] []
    rw [List.append_nil]
    rfl
  | fail message => rfl
  | print text rest ih =>
    change (w.run earlier (rest.bind next)).after [text] [] =
      ((w.run earlier rest).after [text] []).andThen _
    rw [ih, Transcript.andThen_after]
    rfl
  | ask call rest ih =>
    obtain ⟨answers, first, asks⟩ := Asks.exists_answers w earlier call
    change w.run earlier (.ask call fun time answers => (rest time answers).bind next) = _
    rw [asks.run_eq, asks.run_eq, ih, Transcript.andThen_after]
    simp only [List.append_assoc]

/-- A program goes on after another one with what that ends with. -/
theorem run_bind_of_ok {script : Script α} {next : α → Script β} {value : α}
    (ends : (w.run earlier script).ending = .ok value) :
    w.run earlier (script.bind next) =
      (w.run (earlier ++ (w.run earlier script).requests) (next value)).after
        (w.run earlier script).printed (w.run earlier script).requests := by
  -- The general law, where it is known how the first program ends.
  rw [run_bind, Transcript.andThen, ends]

/-- What is to be said is printed, line by line. -/
theorem run_sayAll (texts : List String) :
    w.run earlier (Script.sayAll texts) =
      { printed := texts, requests := [], ending := .ok () } := by
  -- Line by line, each before those that are left.
  induction texts with
  | nil => rfl
  | cons text texts ih => exact congrArg (Transcript.after [text] []) ih

/-- A program goes on after it has printed something. -/
theorem run_sayAll_bind (texts : List String) (next : Unit → Script β) :
    w.run earlier ((Script.sayAll texts).bind next) = (w.run earlier (next ())).after texts [] := by
  -- To print sends nothing, so the rest sees the same requests before it.
  rw [run_bind, run_sayAll, Transcript.andThen, List.append_nil]

/-- Some layers are fetched into a picture of them all, whatever becomes of each. -/
theorem run_fetchAll (earlier : List Request) (layers : List Layer) :
    ∃ sent frame, w.run earlier (Script.fetchAll layers) =
        { printed := [], requests := sent, ending := .ok frame } ∧
      frame.layers.map (·.layer) = layers ∧ frame.isLoading = false := by
  -- Layer by layer: each fetch ends in a mesh or in a fault, and neither is still loading.
  induction layers generalizing earlier with
  | nil => exact ⟨[], {}, rfl, rfl, rfl⟩
  | cons layer layers ih =>
    obtain ⟨answers, first, asks⟩ := Asks.exists_answers w earlier (.asset layer.url)
    obtain ⟨sent, frame, fetched, drawn, settled⟩ := ih (earlier ++ requests first)
    let mesh := Mesh.ofFetched layer.url (answers (.asset layer.url))
    refine ⟨requests first ++ sent,
      { layers := { layer, state := .ofMesh mesh } :: frame.layers }, ?_, ?_, ?_⟩
    · rw [Script.fetchAll, asks.run_eq]
      change (w.run _ ((Script.fetchAll layers).bind _)).after _ _ = _
      rw [run_bind, fetched]
      change Transcript.mk [] (requests first ++ (sent ++ [])) _ = _
      rw [List.append_nil]
      rfl
    · simp [drawn]
    · cases found : mesh <;> simp_all [Frame.isLoading, LayerState.ofMesh]

end World

end SelectorTutorial
