import SelectorTutorial.Navigation.Route
import SelectorTutorial.Session.Snapshot

/-! What stands beside every page, and the page to start from. -/

namespace SelectorTutorial

/-- A link to a page. -/
structure Menu.Link where
  /-- The text of the link. -/
  label : String
  /-- The page that it leads to. -/
  route : Route
  /-- Whether that is the page shown. -/
  isActive : Bool
deriving DecidableEq, Repr

/-- An example as the menu shows it. -/
structure Menu.ExampleLine where
  /-- Its name. -/
  name : String
  /-- Its tags. -/
  tags : String
deriving DecidableEq, Repr

/-- A link to a text elsewhere. -/
structure Menu.DocLink where
  /-- The text of the link. -/
  label : String
  /-- Where it leads. -/
  url : String
deriving DecidableEq, Repr

/-- What stands beside a page. -/
structure Menu where
  /-- The title of the page. -/
  title : String
  /-- A link for each lesson. -/
  lessons : List Menu.Link
  /-- The link to the playground. -/
  playground : Menu.Link
  /-- The examples. -/
  examples : List Menu.ExampleLine
  /-- Texts elsewhere. -/
  docs : List Menu.DocLink
deriving DecidableEq, Repr

namespace Menu

/-- A link to a page, which is active while that page is shown. -/
def Link.to (label : String) (route current : Route) : Link :=
  { label, route, isActive := route == current }

/-- Texts about selectors. -/
def docLinks : List DocLink := [
  ⟨"Selection docs", "https://cadquery.readthedocs.io/en/latest/selectors.html"⟩,
  ⟨"CadQuery GitHub", "https://github.com/CadQuery/cadquery"⟩]

end Menu

/-- The menu beside a page. -/
def Snapshot.menu (s : Snapshot) (current : Route) : Menu where
  title := current.title
  lessons := s.lessons.map fun l => .to l.title (.lesson l.id) current
  playground := .to "Try selections" .playground current
  examples := s.examples.map fun e => ⟨e.name, e.tagLine⟩
  docs := Menu.docLinks

/-- The page to start from. -/
structure Overview where
  /-- The heading. -/
  heading : String
  /-- What it is all about. -/
  intro : String
  /-- What selectors are made of. -/
  blocks : List String
  /-- Where the lessons start. -/
  start : Route
  /-- Where things can be tried out. -/
  playground : Route
deriving DecidableEq, Repr

/-- The page to start from leads to the first lesson. -/
def Snapshot.overview (s : Snapshot) : Overview where
  heading := "How CadQuery selection works"
  intro := "CadQuery selectors are composable strings and helpers that identify sub-shapes of a " ++
    "model: faces, edges, vertices, wires and more. The lessons go from orientation filters to " ++
    "property-based matching, spatial queries and chaining."
  blocks := [
    "Orientation filters such as >Z or |Y.",
    "Property filters by area, radius, or planarity.",
    "Chaining selections across faces, edges, and vertices."]
  start := .lessons s.firstLesson
  playground := .playground

end SelectorTutorial
