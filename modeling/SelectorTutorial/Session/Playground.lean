import SelectorTutorial.Session.Catalog
import SelectorTutorial.Session.Form
import SelectorTutorial.Session.Panel
import SelectorTutorial.Session.Ticket
import SelectorTutorial.Viewport.Layer

/-! The playground: it compiles whatever is put in, and runs selectors with bounds against it. -/

namespace SelectorTutorial

/-- The playground. -/
structure Playground where
  /-- What the user filled in. -/
  form : Form := {}
  /-- The model that was compiled here. -/
  model : Option Model := none
  /-- How far the model is compiled. -/
  compileStatus : Panel := {}
  /-- How far the selector is run. -/
  selectionStatus : Panel := {}
  /-- The tickets of the calls of this page. -/
  tickets : Tickets := {}
deriving DecidableEq, Repr

namespace Playground

/-- What the user is told of a file that cannot be compiled. -/
def unsupportedUpload : String :=
  "Unsupported file type; upload a .step, .stp or .stl file."

/-- What can be asked of the page that may take a reply. -/
inductive Call where
  /-- To have the lists at hand, and to choose an example. -/
  | prepare
  /-- To compile what was put in. -/
  | compile
  /-- To run the selector. -/
  | run
deriving DecidableEq, Repr

/-- What a call of the page ends with. -/
inductive Result where
  /-- What went wrong with the lists. -/
  | prepared (status : Catalog.Status)
  /-- What compiling or running came to. -/
  | done (outcome : Outcome)
deriving DecidableEq, Repr

/-- What a call of the page waits for. -/
inductive Waiting where
  /-- A list. -/
  | catalog (on : Catalog.Waiting)
  /-- A model. -/
  | compile (ticket : Ticket) (source : ModelSource)
  /-- The result of a selector. -/
  | selection (ticket : Ticket) (request : Selection.Request)
deriving DecidableEq, Repr

/-- What the backend is asked for. -/
def Waiting.call : Waiting → BackendCall
  | catalog on => on.call
  | compile _ source => .compile source
  | selection _ request => .select request

/-- The page and what it shares after a step of a call, and how far that call has come. -/
structure Step where
  /-- The page. -/
  page : Playground
  /-- What it shares. -/
  shared : Snapshot
  /-- How far the call has come. -/
  progress : Progress Waiting Result
deriving DecidableEq, Repr

/-- When nothing is chosen, the first example is. -/
def preselect (page : Playground) (shared : Snapshot) : Playground :=
  if page.form.example?.isNone then
    { page with form := { page.form with example? := shared.examples.head?.map (·.id) } }
  else page

/-- Once the lists are settled, an example is chosen. -/
def goOnPreparing (page : Playground) (shared : Snapshot) :
    Progress Catalog.Waiting Catalog.Status → Step
  | .waiting on => { page, shared, progress := .waiting (.catalog on) }
  | .finished status =>
    { page := page.preselect shared, shared, progress := .finished (.prepared status) }

/-- Begins to compile, unless there is nothing to compile or a file of the wrong kind. -/
def startCompile (page : Playground) (shared : Snapshot) : Step :=
  let begun (source : ModelSource) : Step :=
    let (ticket, tickets) := page.tickets.issue .compile
    { page := { page with compileStatus := page.compileStatus.begin, tickets }
      shared
      progress := .waiting (.compile ticket source) }
  match page.form.modelSource? with
  | none => { page, shared, progress := .finished (.done .skipped) }
  | some (.upload file) =>
    if file.isSupported then begun (.upload file)
    else
      { page := { page with compileStatus := page.compileStatus.fail unsupportedUpload }
        shared
        progress := .finished (.done (.failed unsupportedUpload)) }
  | some source => begun source

/-- Begins to run the selector, unless there is none, no model, or a bound that is no number. -/
def startRun (page : Playground) (shared : Snapshot) : Step :=
  let expression := Text.trim page.form.selection
  match page.model with
  | none => { page, shared, progress := .finished (.done .skipped) }
  | some model =>
    if expression = "" then { page, shared, progress := .finished (.done .skipped) }
    else match page.form.filters.filters? with
      | .error fault =>
        { page := { page with selectionStatus := page.selectionStatus.fail fault.message }
          shared
          progress := .finished (.done (.failed fault.message)) }
      | .ok filters =>
        let (ticket, tickets) := page.tickets.issue .selection
        { page := { page with selectionStatus := page.selectionStatus.begin, tickets }
          shared
          progress := .waiting (.selection ticket (.of model.id expression filters)) }

/-- Begins a call of the page. -/
def start (page : Playground) (shared : Snapshot) : Call → Step
  | .prepare => goOnPreparing page shared (Catalog.start shared)
  | .compile => startCompile page shared
  | .run => startRun page shared

/-- Goes on with a call of the page once the backend has answered. -/
def resume (now : Timestamp) (answers : Answers) (page : Playground) (shared : Snapshot) :
    Waiting → Step
  | .catalog on =>
    let (shared, progress) := Catalog.resume now answers shared on
    goOnPreparing page shared progress
  | .compile ticket source =>
    if page.tickets.isCurrent ticket then
      match answers (.compile source) with
      | .ok model =>
        { page := { page with
            model := some model
            compileStatus := page.compileStatus.succeed
            selectionStatus := {}
            -- A selection of the model before must not arrive any more.
            tickets := page.tickets.invalidate .selection }
          shared := (shared.apply now (.model (some model))).apply now (.result none)
          progress := .finished (.done .applied) }
      | .error error =>
        let message := error.shownIn .compile
        { page := { page with compileStatus := page.compileStatus.fail message }
          shared
          progress := .finished (.done (.failed message)) }
    else { page, shared, progress := .finished (.done .superseded) }
  | .selection ticket request =>
    if page.tickets.isCurrent ticket then
      match answers (.select request) with
      | .ok result =>
        { page := { page with selectionStatus := page.selectionStatus.succeed }
          shared := shared.apply now (.result (some result))
          progress := .finished (.done .applied) }
      | .error error =>
        let message := error.shownIn .selection
        { page := { page with selectionStatus := page.selectionStatus.fail message }
          shared
          progress := .finished (.done (.failed message)) }
    else { page, shared, progress := .finished (.done .superseded) }

/-- Lets go of what was selected, and of what is still being selected. -/
def clearSelection (page : Playground) : Playground :=
  { page with selectionStatus := {}, tickets := page.tickets.invalidate .selection }

/-- Changes what the user filled in. -/
def edit (page : Playground) (change : Form → Form) : Playground :=
  { page with form := change page.form }

/-- What the page draws. -/
def scene (page : Playground) (shared : Snapshot) : Scene :=
  .of page.model shared.result shared.mode

end Playground

/-- Where the mesh of what was selected can be downloaded. -/
def Snapshot.downloadLink (s : Snapshot) : Option String :=
  s.result.bind (·.previewMeshUrl)

end SelectorTutorial
