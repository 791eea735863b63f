import SelectorTutorial.Proofs.CommandLine.Parts

/-! What the playground asks for when it is run from the command line, part by part. -/

namespace SelectorTutorial

open Exchanged

/-- What the playground asks for, part by part. -/
structure PlaygroundLog where
  /-- For the lists. -/
  lists : List Exchanged := []
  /-- To compile something. -/
  compiled : List Exchanged := []
  /-- To run the selector. -/
  selected : List Exchanged := []
  /-- For the meshes. -/
  fetched : List Exchanged := []

namespace PlaygroundLog

/-- All of it, in the order in which it is asked for. -/
def all (log : PlaygroundLog) : List Exchanged :=
  log.lists ++ log.compiled ++ log.selected ++ log.fetched

/-- Each part is what it is for, and there is not more of it than is needed. -/
structure IsOrdered (log : PlaygroundLog) : Prop where
  /-- The lessons at most once, and then the examples at most once. -/
  lists : (calls log.lists).Sublist [.lessons, .examples]
  /-- One thing at most is compiled. -/
  compiled : AtMost 1 BackendCall.IsCompile log.compiled
  /-- The selector is run once at most. -/
  selected : AtMost 1 BackendCall.IsSelect log.selected
  /-- Two meshes at most are fetched. -/
  fetched : AtMost 2 BackendCall.IsAsset log.fetched

end PlaygroundLog

namespace Commands

open Script

/-- The session in which the form is filled in. -/
def filledSession (options : PlaygroundOptions) (upload : Option Upload) (s : Session) : Session :=
  { s with playground := s.playground.edit (filledIn options upload) }

/-- How far a run of the playground gets, what it asks for until then, and how it ends. -/
inductive PlaygroundCourse (w : World) (files : Files) (options : PlaygroundOptions) :
    PlaygroundLog → Except String Unit → Prop
  /-- The file cannot be read. -/
  | unreadable {lists : List Exchanged} {s : Session} {result : Session.Result} {path : String}
      {ending : Except String Unit}
      (prepared : Runs w [] (perform {} (.playground .prepare)) lists (.ok (s, result)))
      (named : options.file = some path) (missing : files path = none) (fails : Fails ending) :
      PlaygroundCourse w files options { lists } ending
  /-- Nothing is compiled. -/
  | uncompiled {lists compiled : List Exchanged} {s t : Session} {result compiling : Session.Result}
      {upload : Option Upload} {ending : Except String Unit}
      (prepared : Runs w [] (perform {} (.playground .prepare)) lists (.ok (s, result)))
      (read : uploadOf files options.file = .done upload)
      (compiles : Runs w (requests lists)
        (perform (filledSession options upload s) (.playground .compile)) compiled
        (.ok (t, compiling)))
      (refused : compiling.outcome ≠ .applied) (fails : Fails ending) :
      PlaygroundCourse w files options { lists, compiled } ending
  /-- The selector fails. -/
  | unselected {lists compiled selected : List Exchanged} {s t u : Session}
      {result compiling selecting : Session.Result} {upload : Option Upload} {message : String}
      {ending : Except String Unit}
      (prepared : Runs w [] (perform {} (.playground .prepare)) lists (.ok (s, result)))
      (read : uploadOf files options.file = .done upload)
      (compiles : Runs w (requests lists)
        (perform (filledSession options upload s) (.playground .compile)) compiled
        (.ok (t, compiling)))
      (applied : compiling.outcome = .applied)
      (selects : Runs w (requests (lists ++ compiled)) (perform t (.playground .run)) selected
        (.ok (u, selecting)))
      (refused : selecting.outcome = .failed message) (fails : Fails ending) :
      PlaygroundCourse w files options { lists, compiled, selected } ending
  /-- Whatever there is to draw is drawn, unless it is not known where it can be downloaded. -/
  | drawn {lists compiled selected fetched : List Exchanged} {s t u : Session}
      {result compiling selecting : Session.Result} {upload : Option Upload}
      {ending : Except String Unit}
      (prepared : Runs w [] (perform {} (.playground .prepare)) lists (.ok (s, result)))
      (read : uploadOf files options.file = .done upload)
      (compiles : Runs w (requests lists)
        (perform (filledSession options upload s) (.playground .compile)) compiled
        (.ok (t, compiling)))
      (applied : compiling.outcome = .applied)
      (selects : Runs w (requests (lists ++ compiled)) (perform t (.playground .run)) selected
        (.ok (u, selecting)))
      (unfailed : ¬ ∃ message, selecting.outcome = .failed message)
      (ends : ending = .ok () ∨ fetched = [] ∧ Fails ending) :
      PlaygroundCourse w files options { lists, compiled, selected, fetched } ending

/-- A file that is wanted is read, or the program fails for want of it. -/
theorem uploadOf_cases (files : Files) (file : Option String) :
    (∃ upload, uploadOf files file = .done upload) ∨
      ∃ path message, file = some path ∧ files path = none ∧
        uploadOf files file = .fail message := by
  -- There is no file to read, or it is missing, or it is read.
  cases file with
  | none => exact .inl ⟨none, rfl⟩
  | some path =>
    simp only [uploadOf]
    cases found : files path with
    | none => exact .inr ⟨path, _, rfl, found, rfl⟩
    | some content => exact .inl ⟨some ⟨uploadName path, content⟩, rfl⟩

variable {w : World} {earlier : List Request} {log : List Exchanged}

/-- A program goes on after it has compiled something, and fails where nothing is compiled. -/
theorem of_compile {s : Session} {ending : Except String Session}
    (runs : Runs w earlier (compile s) log ending) :
    ∃ t result, Runs w earlier (perform s (.playground .compile)) log (.ok (t, result)) ∧
      ((result.outcome = .applied ∧ ending = .ok t) ∨
        (result.outcome ≠ .applied ∧ ∃ message, ending = .error message)) := by
  obtain ⟨t, result, first, rest, compiles, runs, rfl⟩ := runs.of_perform_bind
  obtain ⟨-, outcome, rfl, notSuperseded, -⟩ := compiles.completes.of_compile
  -- Whatever became of it, nothing more is asked for.
  cases outcome with
  | superseded => exact absurd rfl notSuperseded
  | skipped =>
    cases runs
    rw [List.append_nil]
    exact ⟨t, _, compiles, .inr ⟨by simp [Session.Result.outcome], _, rfl⟩⟩
  | applied =>
    cases runs
    rw [List.append_nil]
    exact ⟨t, _, compiles, .inl ⟨rfl, rfl⟩⟩
  | failed message =>
    cases runs
    rw [List.append_nil]
    exact ⟨t, _, compiles, .inr ⟨by simp [Session.Result.outcome], _, rfl⟩⟩

/-- Where the mesh can be downloaded is told without asking. -/
theorem of_download {api : Api} {s : Session} {ending : Except String Unit}
    (runs : Runs w earlier (download api s) log ending) : log = [] := by
  -- None of the branches asks for anything.
  unfold download at runs
  split at runs
  · cases runs
    rfl
  · split at runs
    · cases runs with
      | print rest =>
        cases rest
        rfl
    · cases runs
      rfl

/-- A run of the playground takes one of its courses. -/
theorem exists_playgroundCourse {files : Files} {options : PlaygroundOptions}
    {ending : Except String Unit} (runs : Runs w [] (playground w.api files options) log ending) :
    ∃ parts : PlaygroundLog, parts.all = log ∧ parts.IsOrdered ∧
      PlaygroundCourse w files options parts ending := by
  -- The parts of the program are taken off one after another, and each may end it.
  obtain ⟨s, result, lists, rest, prepared, opened, rfl⟩ := runs.of_perform_bind
  have listed := prepared.completes.of_prepare
  rw [List.nil_append] at opened
  simp only at opened
  rcases uploadOf_cases files options.file with
    ⟨upload, read⟩ | ⟨path, message, named, missing, unread⟩
  · rw [read] at opened
    change Runs w _ ((compile (filledSession options upload s)).bind _) _ _ at opened
    rcases opened.of_bind with ⟨message, failed, ends⟩ | ⟨compiled, t, more, here, there, rfl⟩
    · obtain ⟨t, compiling, compiles, ⟨-, ended⟩ | ⟨refused, -⟩⟩ := of_compile failed
      · cases ended
      · refine ⟨⟨lists, rest, [], []⟩, ?_, ?_, ?_⟩
        · simp [PlaygroundLog.all]
        · exact ⟨listed, compiles.completes.of_compile.1, .nil, .nil⟩
        · exact .uncompiled prepared read compiles refused ⟨message, ends⟩
    · obtain ⟨t', compiling, compiles, ⟨applied, ended⟩ | ⟨-, message, ended⟩⟩ := of_compile here
      · cases ended
        have compiledOnce := compiles.completes.of_compile.1
        rw [← requests_append] at there
        obtain ⟨u, selecting, selected, fetched, selects, reported, rfl⟩ :=
          there.of_sayAll_bind.of_perform_bind
        have selectedOnce := selects.completes.of_playground_run.1
        rcases reported.of_report_bind with ⟨⟨message, refused⟩, rfl, fails⟩ | ⟨unfailed, drawing⟩
        · refine ⟨⟨lists, compiled, selected, []⟩, ?_, ?_, ?_⟩
          · simp [PlaygroundLog.all]
          · exact ⟨listed, compiledOnce, selectedOnce, .nil⟩
          · exact .unselected prepared read compiles applied selects refused fails
        -- All that can still fail is to tell where the mesh is, and that is before any is fetched.
        · have drawn : AtMost 2 BackendCall.IsAsset fetched ∧
              (ending = .ok () ∨ fetched = [] ∧ Fails ending) := by
            rcases drawing.of_sayAll_bind.of_bind_of_silent of_download with
              ⟨rfl, message, -, ends⟩ | ⟨_, -, drawn⟩
            · exact ⟨.nil, .inr ⟨rfl, message, ends⟩⟩
            · exact ⟨drawn.of_draw.1, .inl drawn.of_draw.2⟩
          refine ⟨⟨lists, compiled, selected, fetched⟩, ?_, ?_, ?_⟩
          · simp [PlaygroundLog.all]
          · exact ⟨listed, compiledOnce, selectedOnce, drawn.1⟩
          · exact .drawn prepared read compiles applied selects unfailed drawn.2
      · cases ended
  · rw [unread] at opened
    cases opened
    refine ⟨⟨lists, [], [], []⟩, ?_, ?_, ?_⟩
    · simp [PlaygroundLog.all]
    · exact ⟨listed, .nil, .nil, .nil⟩
    · exact .unreadable prepared named missing ⟨message, rfl⟩

end Commands

end SelectorTutorial
