import SelectorTutorial.CommandLine.Arguments
import SelectorTutorial.CommandLine.Printed
import SelectorTutorial.CommandLine.Script
import SelectorTutorial.Settings

/-! What each command does, as a program over a new session. -/

namespace SelectorTutorial

namespace Session.Result

/-- What loading, compiling or running came to. -/
def outcome : Result → Outcome
  | .lesson (.loaded outcome _) => outcome
  | .lesson (.done outcome) => outcome
  | .playground (.done outcome) => outcome
  | _ => .skipped

/-- The lesson to show in place of one that is not there, or where none was named. -/
def target : Result → Option Lesson.Id
  | .lesson (.loaded _ (some (.lessons id))) => id
  | .lesson (.route (some (.lessons id))) => id
  | _ => none

/-- What went wrong with the lists. -/
def status : Result → Catalog.Status
  | .catalog status => status
  | .playground (.prepared status) => status
  | _ => {}

end Session.Result

namespace Commands

open Script

/-- A call that failed ends the program, and one that had nothing to do is told. -/
def report (action : String) : Outcome → Script Unit
  | .failed message => fail (action ++ ": " ++ message)
  | .skipped => say (action ++ ": nothing to do")
  | .applied => done ()
  | .superseded => done ()

/-- Asks whether the backend is up. -/
def health : Script Unit :=
  ask .health fun _ answers =>
    match answers .health with
    | .error error => fail error.message
    | .ok (h : Health) => do
      say ("backend status=" ++ h.status)
      if h.isOk then return else fail ("backend reported status " ++ h.status)

/-- Lists the lessons. -/
def lessons : Script Unit := do
  let (s, result) ← perform {} .ensureCatalog
  match result.status.lessonsError with
  | some message => fail message
  | none => sayAll (Printed.lessons s.shared.lessons)

/-- Lists the examples. -/
def examples : Script Unit := do
  let (s, result) ← perform {} .ensureCatalog
  match result.status.examplesError with
  | some message => fail message
  | none => sayAll (Printed.examples s.shared.examples)

/-- Tells what is about to be drawn, and then what was drawn. -/
def draw (scene : Scene) : Script Unit := do
  sayAll (Printed.pending scene)
  let frame ← fetchAll scene.layers
  sayAll (Printed.frame frame)

/-- The shared part of a session drawn the other way, if that is wanted. -/
def highlighted (isWanted : Bool) (s : Session) : Session :=
  if isWanted then { s with shared := s.shared.toggleMode } else s

/-- The lesson that was named, or the first one. -/
def lessonId (s : Session) : Option String → Script (Session × Lesson.Id)
  | some id => return (s, ⟨id⟩)
  | none => do
    let (s, result) ← perform s (.lesson (.resolveRoute none))
    match result.target with
    | some id => return (s, id)
    | none => fail "no lessons available"

/-- Loads a lesson, or the first one in place of a lesson that is not there. -/
def load (s : Session) (id : Lesson.Id) : Script Session := do
  let (s, result) ← perform s (.lesson (.load id))
  match result.target with
  | none =>
    report "load lesson" result.outcome
    return s
  | some target =>
    say ("lesson " ++ id.text ++ " not found, opening " ++ target.text)
    let (s, result) ← perform s (.lesson (.load target))
    report "load lesson" result.outcome
    return s

/-- Runs the selector of the lesson page, if that is wanted. -/
def runLesson (isWanted : Bool) (s : Session) : Script Session :=
  if isWanted then do
    let (s, result) ← perform s (.lesson .run)
    report "run selection" result.outcome
    sayAll (Printed.selection s.shared s.lesson.selection)
    return s
  else return s

/-- Shows a lesson. -/
def lesson (options : LessonOptions) : Script Unit := do
  let (s, _) ← perform {} .ensureCatalog
  let (s, id) ← lessonId s options.id
  let s ← load s id
  sayAll (Printed.lessonPage s.lesson s.shared)
  let s := match options.select with
    | some selection => { s with lesson := s.lesson.setSelection selection }
    | none => s
  let s ← runLesson (options.run || options.select.isSome) s
  let s := if options.showSolution then { s with lesson := s.lesson.toggleSolution } else s
  sayAll (s.lesson.visibleSolution.map ("solution: " ++ ·)).toList
  let s := highlighted options.highlightOnly s
  draw (s.lesson.scene s.shared)

/-- The name that a file is handed over by. -/
def uploadName (path : String) : String :=
  ((Upload.baseName? path.toList).map .ofList).getD "upload"

/-- The file that was named, which has to be readable. -/
def uploadOf (files : Files) : Option String → Script (Option Upload)
  | none => return none
  | some path =>
    match files path with
    | some content => return some { filename := uploadName path, content }
    | none => fail s!"failed to read '{path}'"

/-- The form as it is filled in on the command line. -/
def filledIn (options : PlaygroundOptions) (upload : Option Upload) (form : Form) : Form where
  source := options.source.getD ""
  upload := upload
  example? := (options.example?.map Example.Id.mk).or form.example?
  selection := options.selection.getD form.selection
  filters := {
    minArea := options.minArea.getD ""
    maxArea := options.maxArea.getD ""
    minLength := options.minLength.getD ""
    maxLength := options.maxLength.getD "" }

/-- Compiles what was put in; on the command line there has to be something. -/
def compile (s : Session) : Script Session := do
  let (s, result) ← perform s (.playground .compile)
  match result.outcome with
  | .skipped => fail "nothing to compile; pass --source, --file or --example"
  | outcome =>
    report "compile" outcome
    return s

/-- Tells where the mesh of the selected shapes can be downloaded. -/
def download (api : Api) (s : Session) : Script Unit :=
  match s.shared.downloadLink with
  | none => return
  | some link =>
    match api.assetUrl link with
    | .ok url => say ("download: " ++ url.text)
    | .error error => fail error.message

/-- Compiles something and runs a selector against it. -/
def playground (api : Api) (files : Files) (options : PlaygroundOptions) : Script Unit := do
  let (s, _) ← perform {} (.playground .prepare)
  let upload ← uploadOf files options.file
  let s := { s with playground := s.playground.edit (filledIn options upload) }
  let s ← compile s
  sayAll (s.playground.model.toList.flatMap Printed.model)
  let (s, result) ← perform s (.playground .run)
  report "run selection" result.outcome
  sayAll (Printed.selection s.shared s.playground.form.selection)
  download api s
  let s := highlighted options.highlightOnly s
  draw (s.playground.scene s.shared)

/-- What a command does. -/
def script (api : Api) (files : Files) : Command → Script Unit
  | .health => health
  | .lessons => lessons
  | .examples => examples
  | .lesson options => lesson options
  | .playground options => playground api files options

end Commands

/-- The files that a command line may want to be read. -/
def filesNamed (args : List String) : List String :=
  match Arguments.ofList args with
  | .error _ => []
  | .ok arguments =>
    [arguments.config.getD Settings.defaultFile] ++
      match arguments.command with
      | .playground options => options.file.toList
      | _ => []

/-- What comes of a command line before anything is asked of the backend. -/
inductive Launch where
  /-- Help is given. -/
  | help
  /-- The command line makes no sense. -/
  | misuse
  /-- There is a reason not to go on. -/
  | failed (message : String)
  /-- A program is run against a backend. -/
  | ready (settings : Settings) (api : Api) (script : Script Unit)

/-- What comes of a command line, with the settings from the files, the environment and the
flags. -/
def launch (files : Files) (env : Environment) (args : List String) : Launch :=
  match Arguments.ofList args with
  | .error .help => .help
  | .error .misuse => .misuse
  | .ok arguments =>
    match Settings.load files env arguments.config arguments.apiBase with
    | .error unreadable => .failed unreadable.message
    | .ok settings =>
      match Api.ofBase settings.apiBase with
      | .error error => .failed error.message
      | .ok api => .ready settings api (Commands.script api files arguments.command)

end SelectorTutorial
