import SelectorTutorial.Proofs.CommandLine.PlaygroundRun
import SelectorTutorial.Proofs.CommandLine.Transcript

/-! How the playground goes on from the command line after its selector: it tells where the mesh can
be downloaded, and draws what there is to see. -/

namespace SelectorTutorial

open Exchanged

namespace Commands

open Script

/-- The playground up to the end of its selector: what that came to, and the session then. -/
def untilSelector (files : Files) (options : PlaygroundOptions) : Script (Outcome × Session) := do
  let (s, _) ← perform {} (.playground .prepare)
  let upload ← uploadOf files options.file
  let s ← compile (filledSession options upload s)
  sayAll (s.playground.model.toList.flatMap Printed.model)
  let (s, result) ← perform s (.playground .run)
  return (result.outcome, s)

/-- What the playground draws at last. -/
def pictured (options : PlaygroundOptions) (s : Session) : Scene :=
  let s := highlighted options.highlightOnly s
  s.playground.scene s.shared

/-- The playground after its selector. -/
def afterSelector (api : Api) (options : PlaygroundOptions) (past : Outcome × Session) :
    Script Unit := do
  report "run selection" past.1
  sayAll (Printed.selection past.2.shared past.2.playground.form.selection)
  download api past.2
  draw (pictured options past.2)

/-- The playground goes on after its selector. -/
theorem playground_eq (api : Api) (files : Files) (options : PlaygroundOptions) :
    playground api files options =
      (untilSelector files options).bind (afterSelector api options) := by
  -- Both sides say the same things in the same order; only the brackets between them differ.
  simp only [playground, untilSelector, Bind.bind, bind_assoc]
  rfl

/-- A run of the playground gets past its selector: something was compiled, and then the selector
was run, or there was none. -/
inductive PastSelector (w : World) (files : Files) (options : PlaygroundOptions) :
    List Exchanged → Outcome → Session → Prop
  | intro {lists compiled selected : List Exchanged} {s t u : Session}
      {result compiling selecting : Session.Result} {upload : Option Upload}
      (prepared : Runs w [] (perform {} (.playground .prepare)) lists (.ok (s, result)))
      (read : uploadOf files options.file = .done upload)
      (compiles : Runs w (requests lists)
        (perform (filledSession options upload s) (.playground .compile)) compiled
        (.ok (t, compiling)))
      (applied : compiling.outcome = .applied)
      (selects : Runs w (requests (lists ++ compiled)) (perform t (.playground .run)) selected
        (.ok (u, selecting)))
      (unfailed : selecting.outcome = .applied ∨ selecting.outcome = .skipped) :
      PastSelector w files options (lists ++ compiled ++ selected) selecting.outcome u

variable {w : World} {files : Files} {options : PlaygroundOptions} {asked : List Exchanged}
  {outcome : Outcome} {u : Session}

/-- To compile what was put in is to compile it, once that is applied. -/
theorem runs_compile {earlier : List Request} {log : List Exchanged} {s t : Session}
    {result : Session.Result}
    (compiles : Runs w earlier (perform s (.playground .compile)) log (.ok (t, result)))
    (applied : result.outcome = .applied) : Runs w earlier (compile s) log (.ok t) := by
  -- An applied compilation is not reported and the program goes straight on, so nothing is added to
  -- its log.
  change Runs w earlier ((perform s (.playground .compile)).bind _) log (.ok t)
  rw [← List.append_nil log]
  refine compiles.bind ?_
  simp only [applied]
  exact .done

/-- What is printed does not count among what is asked for. -/
theorem runs_sayAll_bind {α : Type} {earlier : List Request} {log : List Exchanged}
    {texts : List String} {next : Unit → Script α} {ending : Except String α}
    (rest : Runs w earlier (next ()) log ending) :
    Runs w earlier ((sayAll texts).bind next) log ending := by
  -- Line by line: to print asks for nothing.
  induction texts with
  | nil => exact rest
  | cons text texts ih => exact .print ih

/-- A run gets past its selector just when the program comes to the end of that, and the selector
did not fail. -/
theorem pastSelector_iff :
    PastSelector w files options asked outcome u ↔
      Runs w [] (untilSelector files options) asked (.ok (outcome, u)) ∧
        (outcome = .applied ∨ outcome = .skipped) := by
  -- A run that is past its selector is put together from its parts.  Back, a program that ends in a
  -- value has come through each of them, since every failure on the way ends it in a message.
  constructor
  · intro past
    cases past with
    | @intro lists compiled _ _ t _ _ _ _ _ prepared read compiles applied selects unfailed =>
      have selected : Runs w (requests (lists ++ compiled)) ((perform t (.playground .run)).bind
          fun past => .done (past.2.outcome, past.1)) _ _ := selects.bind .done
      rw [List.append_nil, requests_append] at selected
      refine ⟨?_, unfailed⟩
      rw [List.append_assoc]
      refine prepared.bind ?_
      simp only [read]
      exact (runs_compile compiles applied).bind (runs_sayAll_bind selected)
  · rintro ⟨runs, unfailed⟩
    obtain ⟨s, result, lists, rest, prepared, opened, rfl⟩ := runs.of_perform_bind
    rw [List.nil_append] at opened
    simp only at opened
    rcases uploadOf_cases files options.file with
      ⟨upload, read⟩ | ⟨path, message, named, missing, unread⟩
    · rw [read] at opened
      change Runs w _ ((compile (filledSession options upload s)).bind _) _ _ at opened
      rcases opened.of_bind with ⟨message, -, ends⟩ | ⟨compiled, t, more, here, there, rfl⟩
      · cases ends
      · obtain ⟨t', compiling, compiles, ⟨applied, ended⟩ | ⟨-, message, ended⟩⟩ := of_compile here
        · cases ended
          rw [← requests_append] at there
          obtain ⟨u', selecting, selected, none, selects, ended, rfl⟩ :=
            there.of_sayAll_bind.of_perform_bind
          cases ended
          rw [List.append_nil, ← List.append_assoc]
          exact .intro prepared read compiles applied selects unfailed
        · cases ended
    · rw [unread] at opened
      cases opened

/-- A run that gets past its selector goes on with what comes after it. -/
theorem PastSelector.run_eq (past : PastSelector w files options asked outcome u) :
    w.run [] (script w.api files (.playground options)) =
      (w.run (requests asked) (afterSelector w.api options (outcome, u))).after
        (w.run [] (untilSelector files options)).printed (requests asked) := by
  -- The program is its first half with the second one after it.
  obtain ⟨ends, sent⟩ := (pastSelector_iff.mp past).1.run_eq
  change w.run [] (playground w.api files options) = _
  rw [playground_eq, World.run_bind_of_ok ends, List.nil_append, sent]

/-- Without a selector to run there is nothing to download. -/
theorem PastSelector.downloadLink_of_skipped
    (past : PastSelector w files options asked .skipped u) : u.shared.downloadLink = none := by
  -- The compilation has cleared the result, and a run that was skipped has put none in its place.
  generalize came : Outcome.skipped = outcome at past
  cases past with
  | intro _ _ compiles applied selects _ =>
    obtain ⟨-, _, rfl, -, cleared⟩ := compiles.completes.of_compile
    obtain ⟨-, _, rfl, kept⟩ := selects.completes.of_playground_run
    rw [Snapshot.downloadLink, kept came.symm, cleared applied]
    rfl

/-- Where the mesh of the selected shapes can be downloaded, as it is told. -/
def downloadLines (api : Api) (s : Session) : List String :=
  match s.shared.downloadLink.map api.assetUrl with
  | some (.ok url) => ["download: " ++ url.text]
  | _ => []

variable {earlier : List Request}

/-- To tell where the mesh can be downloaded takes a link that leads somewhere, or none at all. -/
theorem run_download (w : World) (earlier : List Request) (s : Session) :
    ((∀ link ∈ s.shared.downloadLink, ∃ url, w.api.assetUrl link = .ok url) ∧
      w.run earlier (download w.api s) =
        { printed := downloadLines w.api s, requests := [], ending := .ok () }) ∨
    ∃ link error, s.shared.downloadLink = some link ∧ w.api.assetUrl link = .error error ∧
      w.run earlier (download w.api s) =
        { printed := [], requests := [], ending := .error error.message } := by
  -- There is no link, or one that resolves, or one that does not.
  cases linked : s.shared.downloadLink with
  | none =>
    refine .inl ⟨by simp, ?_⟩
    simp only [download, downloadLines, linked]
    rfl
  | some link =>
    cases found : w.api.assetUrl link with
    | ok url =>
      refine .inl ⟨by simp [found], ?_⟩
      simp only [download, downloadLines, linked, found, Option.map_some]
      rfl
    | error error =>
      refine .inr ⟨link, error, rfl, found, ?_⟩
      simp only [download, linked, found]
      rfl

/-- A picture is drawn of all its layers, and none of them is still awaited. -/
theorem run_draw (w : World) (earlier : List Request) (scene : Scene) :
    ∃ sent frame, w.run earlier (draw scene) =
        { printed := Printed.pending scene ++ Printed.frame frame, requests := sent
          ending := .ok () } ∧
      frame.layers.map (·.layer) = scene.layers ∧ frame.isLoading = false := by
  -- The layers are printed as pending, fetched one by one, and printed as they came.
  obtain ⟨sent, frame, fetched, drawn, settled⟩ := w.run_fetchAll earlier scene.layers
  refine ⟨sent, frame, ?_, drawn, settled⟩
  change w.run earlier ((sayAll _).bind fun _ => (fetchAll _).bind _) = _
  rw [World.run_sayAll_bind, World.run_bind, fetched]
  simp only [Transcript.andThen, World.run_sayAll, Transcript.after, List.nil_append,
    List.append_nil]

/-- What is reported of a selector that did not fail. -/
def reportLines (outcome : Outcome) : List String :=
  if outcome = .skipped then ["run selection: nothing to do"] else []

/-- A selector that did not fail is reported, and the program goes on. -/
theorem run_report_bind {α : Type} {next : Unit → Script α}
    (unfailed : outcome = .applied ∨ outcome = .skipped) :
    w.run earlier ((report "run selection" outcome).bind next) =
      (w.run earlier (next ())).after (reportLines outcome) [] := by
  -- These two outcomes are printed, where any other ends the program.
  rcases unfailed with rfl | rfl <;> rfl

/-- Once its selector was run, the playground prints what that has reached, tells where the mesh can
be downloaded and draws a picture of all that there is to see, if the link to the mesh leads
somewhere or there is none.  Else it fails for the link. -/
theorem run_afterSelector (w : World) (earlier : List Request) (options : PlaygroundOptions)
    (u : Session) (unfailed : outcome = .applied ∨ outcome = .skipped) :
    let before := reportLines outcome ++
      Printed.selection u.shared u.playground.form.selection
    ((∀ link ∈ u.shared.downloadLink, ∃ url, w.api.assetUrl link = .ok url) ∧
      ∃ sent frame, w.run earlier (afterSelector w.api options (outcome, u)) =
          { printed := before ++ downloadLines w.api u ++ Printed.pending (pictured options u) ++
              Printed.frame frame
            requests := sent, ending := .ok () } ∧
        frame.layers.map (·.layer) = (pictured options u).layers ∧ frame.isLoading = false) ∨
    ∃ link error, u.shared.downloadLink = some link ∧ w.api.assetUrl link = .error error ∧
      w.run earlier (afterSelector w.api options (outcome, u)) =
        { printed := before, requests := [], ending := .error error.message } := by
  -- What is printed first is the same in both cases; then the link decides.
  have starts : w.run earlier (afterSelector w.api options (outcome, u)) =
      (w.run earlier ((download w.api u).bind fun _ => draw (pictured options u))).after
        (reportLines outcome ++ Printed.selection u.shared u.playground.form.selection) [] := by
    change w.run earlier ((report "run selection" outcome).bind fun _ =>
      (sayAll _).bind fun _ => (download w.api u).bind fun _ => draw _) = _
    rw [run_report_bind unfailed, World.run_sayAll_bind, Transcript.after_after]
    rfl
  simp only [starts, World.run_bind]
  rcases run_download w earlier u with ⟨resolves, told⟩ | ⟨link, error, linked, lost, untold⟩
  · obtain ⟨sent, frame, drew, drawn, settled⟩ := run_draw w (earlier ++ []) (pictured options u)
    refine .inl ⟨resolves, sent, frame, ?_, drawn, settled⟩
    simp only [told, Transcript.andThen, drew, Transcript.after, List.append_assoc, List.nil_append]
  · refine .inr ⟨link, error, linked, lost, ?_⟩
    simp [untold, Transcript.andThen, Transcript.after]

/-- A run of the playground that gets past its selector ends well with a picture if the link to the
mesh of the selected shapes leads somewhere, or if there is none, as whenever there was no selector.
The picture is of all layers that are planned, whatever becomes of each, and it is printed after all
else.  If the link leads nowhere, which takes a selector that was run, the run ends with that error
instead: no mesh is asked for, and nothing is printed of the picture, not even that there are layers
to load. -/
theorem picture_unless_link_is_lost (past : PastSelector w files options asked outcome u) :
    let run := w.run [] (script w.api files (.playground options))
    let before := (w.run [] (untilSelector files options)).printed ++ reportLines outcome ++
      Printed.selection u.shared u.playground.form.selection
    ((∀ link ∈ u.shared.downloadLink, ∃ url, w.api.assetUrl link = .ok url) ∧
      run.ending = .ok () ∧
      ∃ frame, frame.layers.map (·.layer) = (pictured options u).layers ∧
        frame.isLoading = false ∧
        run.printed = before ++ downloadLines w.api u ++ Printed.pending (pictured options u) ++
          Printed.frame frame) ∨
    outcome = .applied ∧
      ∃ link error, u.shared.downloadLink = some link ∧ w.api.assetUrl link = .error error ∧
        run.ending = .error error.message ∧ run.printed = before ∧
        run.requests = requests asked := by
  -- What comes after the selector is known for both kinds of link, and is put behind what came
  -- before it.
  intro run before
  obtain ⟨-, unfailed⟩ := pastSelector_iff.mp past
  have whole : run = _ := past.run_eq
  rw [whole]
  rcases run_afterSelector w (requests asked) options u unfailed with
    ⟨resolves, asks, frame, drew, drawn, settled⟩ | ⟨link, error, linked, lost, failed⟩
  · refine .inl ⟨resolves, by rw [drew]; rfl, frame, drawn, settled, ?_⟩
    rw [drew]
    simp only [Transcript.after, before, List.append_assoc]
  · refine .inr ⟨?_, link, error, linked, lost, by rw [failed]; rfl, ?_, ?_⟩
    · -- Without a selector to run there would be no link.
      refine unfailed.resolve_right fun skipped => ?_
      subst skipped
      rw [past.downloadLink_of_skipped] at linked
      cases linked
    · rw [failed]
      simp only [Transcript.after, before, List.append_assoc]
    · rw [failed]
      exact List.append_nil _

/-- A backend that compiles a box and then selects something of it, with some link. -/
def linking (link : String) : Backend := fun earlier _ =>
  match earlier.length with
  | 2 => .response 200 (some (Utf8.encode
      (Json.object [("modelId", .text "box"), ("meshUrl", .text "/box.glb")]).toText))
  | 3 => .response 200 (some (Utf8.encode (Json.object [("previewMeshUrl", .text link)]).toText))
  | _ => .lost

/-- The playground is run against that backend. -/
def linkingWorld (link : String) : World where
  api := .nearby
  link := .up
  backend := linking link
  now := ⟨0⟩

/-- The box is put in as a text. -/
def boxOptions : PlaygroundOptions where
  source := some "box()"

/-- What a run against that backend comes to up to the end of its selector. -/
def linkingRun (link : String) : Transcript (Outcome × Session) :=
  (linkingWorld link).run [] (untilSelector (fun _ => none) boxOptions)

/-- A run that comes to the end of its selector with the link gets past it. -/
theorem exists_pastSelector_linking (link : String)
    (ends : (linkingRun link).ending.toOption.map
      (fun past => (past.1, past.2.shared.downloadLink)) = some (.applied, some link)) :
    ∃ asked u, PastSelector (linkingWorld link) (fun _ => none) boxOptions asked .applied u ∧
      u.shared.downloadLink = some link := by
  -- Every program has a run, and this one ends as it is said to.
  obtain ⟨asked, runs, -⟩ :=
    Runs.exists_of_run (linkingWorld link) [] (untilSelector (fun _ => none) boxOptions)
  change Runs _ _ _ _ (linkingRun link).ending at runs
  generalize (linkingRun link).ending = ending at ends runs
  cases ending with
  | error message => cases ends
  | ok past =>
    obtain ⟨applied, linked⟩ := Prod.mk.inj (Option.some.inj ends)
    exact ⟨asked, past.2, pastSelector_iff.mpr ⟨applied ▸ runs, .inl rfl⟩, linked⟩

/-- A blank leads nowhere. -/
theorem assetUrl_blank (url : Url) : (linkingWorld " ").api.assetUrl " " ≠ .ok url := by
  -- Nothing is left of it once it is trimmed.
  intro found
  cases found

/-- A path leads to a place beside the base. -/
theorem assetUrl_path (error : BackendError) :
    (linkingWorld "/faces.glb").api.assetUrl "/faces.glb" ≠ .error error := by
  -- The URL is computed, and is one.
  intro lost
  have found : ((linkingWorld "/faces.glb").api.assetUrl "/faces.glb").toOption.isSome = true := by
    decide +kernel
  rw [lost] at found
  cases found

/-- With a blank for a link the run ends with that error instead of a picture.  With a path for a
link it ends well, with a picture of all layers. -/
theorem link_decides_on_picture :
    (∃ asked u, PastSelector (linkingWorld " ") (fun _ => none) boxOptions asked .applied u ∧
      let run := (linkingWorld " ").run []
        (script (linkingWorld " ").api (fun _ => none) (.playground boxOptions))
      ∃ error, (linkingWorld " ").api.assetUrl " " = .error error ∧
        run.ending = .error error.message ∧
        run.printed = (linkingRun " ").printed ++
          Printed.selection u.shared u.playground.form.selection ∧
        run.requests = requests asked) ∧
    ∃ asked u,
      PastSelector (linkingWorld "/faces.glb") (fun _ => none) boxOptions asked .applied u ∧
      let run := (linkingWorld "/faces.glb").run []
        (script (linkingWorld "/faces.glb").api (fun _ => none) (.playground boxOptions))
      run.ending = .ok () ∧
        ∃ frame, frame.layers.map (·.layer) = (pictured boxOptions u).layers ∧
          frame.isLoading = false ∧
          run.printed = (linkingRun "/faces.glb").printed ++
            Printed.selection u.shared u.playground.form.selection ++
            downloadLines (linkingWorld "/faces.glb").api u ++
            Printed.pending (pictured boxOptions u) ++ Printed.frame frame := by
  -- Both runs get past their selector; then their link rules out one branch of the theorem each.
  constructor
  · obtain ⟨asked, u, past, linked⟩ := exists_pastSelector_linking " " (by decide +kernel)
    refine ⟨asked, u, past, ?_⟩
    rcases picture_unless_link_is_lost past with ⟨resolves, -⟩ | ⟨-, link, error, same, rest⟩
    · obtain ⟨url, found⟩ := resolves _ linked
      exact absurd found (assetUrl_blank url)
    · rw [linked] at same
      cases same
      obtain ⟨lost, ends, printed, sent⟩ := rest
      exact ⟨error, lost, ends, by simpa [reportLines, linkingRun] using printed, sent⟩
  · obtain ⟨asked, u, past, linked⟩ :=
      exists_pastSelector_linking "/faces.glb" (by decide +kernel)
    refine ⟨asked, u, past, ?_⟩
    rcases picture_unless_link_is_lost past with
      ⟨-, ends, frame, drawn, settled, printed⟩ | ⟨-, link, error, same, lost, -⟩
    · exact ⟨ends, frame, drawn, settled, by simpa [reportLines, linkingRun] using printed⟩
    · rw [linked] at same
      cases same
      exact absurd lost (assetUrl_path error)

/-- A run of the playground can get past its selector and still fail, with no picture. -/
theorem exists_run_without_picture :
    ¬ ∀ (w : World) (files : Files) (options : PlaygroundOptions) (asked : List Exchanged)
        (outcome : Outcome) (u : Session), PastSelector w files options asked outcome u →
      (w.run [] (script w.api files (.playground options))).ending = .ok () := by
  -- A blank for a link is enough.
  intro always
  obtain ⟨asked, u, past, linked⟩ := exists_pastSelector_linking " " (by decide +kernel)
  have ended := always _ _ _ _ _ _ past
  rw [past.run_eq, Transcript.ending_after] at ended
  rcases run_afterSelector (linkingWorld " ") (requests asked) boxOptions u (.inl rfl) with
    ⟨resolves, -⟩ | ⟨_, _, _, _, failed⟩
  · obtain ⟨url, found⟩ := resolves _ linked
    exact assetUrl_blank url found
  · rw [failed] at ended
    cases ended

end Commands

end SelectorTutorial
