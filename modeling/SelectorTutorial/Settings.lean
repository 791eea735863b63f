import SelectorTutorial.Text.Blank
import SelectorTutorial.Text.Utf8
import SelectorTutorial.Toml.Reader

/-!
Settings, gathered from layers: each field has the value that the uppermost layer gives to it, and
its default where none does.
-/

namespace SelectorTutorial

/-- The settings of the client. -/
structure Settings where
  /-- The base of the backend. -/
  apiBase : String := "http://127.0.0.1:8000/api"
  /-- How many seconds a request may take. -/
  timeoutSeconds : Nat := 30
  /-- What is logged. -/
  logFilter : String := "info"
deriving DecidableEq, Repr

/-- What one source of settings says. -/
structure Settings.Layer where
  /-- The base of the backend. -/
  apiBase : Option String := none
  /-- How many seconds a request may take. -/
  timeoutSeconds : Option Nat := none
  /-- What is logged. -/
  logFilter : Option String := none
deriving DecidableEq, Repr

/-- The variables of the environment that have a value. -/
abbrev Environment := String → Option String

/-- The files that can be read. -/
abbrev Files := String → Option Bytes

namespace Settings

/-- A request may take a second at least. -/
def effectiveTimeout (s : Settings) : Nat :=
  max s.timeoutSeconds 1

/-- A base has no blanks around it and no slash at its end, and it names a scheme. -/
def normalizeBase (raw : String) : String :=
  let base := Text.dropTrailingSlashes (Text.trim raw)
  if base = "" then ({} : Settings).apiBase
  else if Text.occurs "://".toList base.toList then base
  else "http://" ++ base

/-- A number of seconds that fits 64 bits, written with digits alone or a plus before them. -/
def seconds? (text : String) : Option Nat :=
  let cs := match text.toList with
    | '+' :: rest => rest
    | cs => cs
  match Decimal.spanDigits cs with
  | ([], _) => none
  | (digits, []) =>
    let n := Digits.toNat 10 digits
    if n < UInt64.size then some n else none
  | _ => none

/-- A text in a file. -/
def textIn? (entries : Toml.Entries) (name : String) : Option String :=
  match entries.find? name with
  | some (.text s) => some s
  | _ => none

/-- A number of seconds in a file. -/
def secondsIn? (entries : Toml.Entries) (name : String) : Option Nat :=
  match entries.find? name with
  | some (.integer i) => if 0 ≤ i then some i.toNat else none
  | _ => none

/-- What a file says; one that cannot be understood says nothing. -/
def Layer.ofFile (content : String) : Layer :=
  match Toml.ofText? content with
  | none => {}
  | some entries =>
    { apiBase := (textIn? entries "api_base").map normalizeBase
      timeoutSeconds := secondsIn? entries "request_timeout_secs"
      logFilter := textIn? entries "log_filter" }

/-- What the environment says; of the two variables for the base the first one counts more. -/
def Layer.ofEnvironment (env : Environment) : Layer where
  apiBase := ((env "APP__API_BASE").or (env "CQ_TUTORIAL_API_BASE")).map normalizeBase
  timeoutSeconds := (env "APP__REQUEST_TIMEOUT_SECS").bind fun s => seconds? (Text.trim s)
  logFilter := env "APP__LOG_FILTER"

/-- The names of the variables that settings are read from. -/
def variableNames : List String :=
  ["APP__API_BASE", "CQ_TUTORIAL_API_BASE", "APP__REQUEST_TIMEOUT_SECS", "APP__LOG_FILTER"]

/-- What is said on the command line. -/
def Layer.ofBase (base : Option String) : Layer where
  apiBase := base.map normalizeBase

/-- Settings with a layer above them. -/
def under (s : Settings) (layer : Layer) : Settings where
  apiBase := layer.apiBase.getD s.apiBase
  timeoutSeconds := layer.timeoutSeconds.getD s.timeoutSeconds
  logFilter := layer.logFilter.getD s.logFilter

/-- Settings with layers above them, the lowest first. -/
def ofLayers (layers : List Layer) : Settings :=
  layers.foldl under {}

/-- The file that is read when no other is named, and that may be missing. -/
def defaultFile : String := "tutorial.toml"

/-- A file that was named and could not be read. -/
structure Unreadable where
  /-- The path of the file. -/
  path : String
deriving DecidableEq, Repr

/-- The wording for a file that could not be read. -/
def Unreadable.message (u : Unreadable) : String :=
  s!"failed to read settings file '{u.path}'"

/-- The text of a file. -/
def textOf? (files : Files) (path : String) : Option String :=
  (files path).bind Utf8.decode?

/-- What the file says that was named, or else the one that is read anyway. -/
def fileLayer (files : Files) : Option String → Except Unreadable Layer
  | some path =>
    match textOf? files path with
    | some content => .ok (.ofFile content)
    | none => .error ⟨path⟩
  | none => .ok (((textOf? files defaultFile).map .ofFile).getD {})

/-- The settings from a file, the environment above it, and the command line above that. -/
def load (files : Files) (env : Environment) (path base : Option String) :
    Except Unreadable Settings :=
  (fileLayer files path).map fun file => ofLayers [file, .ofEnvironment env, .ofBase base]

end Settings

end SelectorTutorial
