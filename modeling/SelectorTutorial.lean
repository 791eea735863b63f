import SelectorTutorial.Main
import SelectorTutorial.Session.Exchange
import SelectorTutorial.Session.Store
import SelectorTutorial.Viewport.Cache
import SelectorTutorial.Proofs.Session.Errand
import SelectorTutorial.Proofs.Session.LessonPage
import SelectorTutorial.Proofs.Session.Run
import SelectorTutorial.Proofs.Session.Playground
import SelectorTutorial.Proofs.Session.Stage
import SelectorTutorial.Proofs.Session.Ticket
import SelectorTutorial.Proofs.Session.Held
import SelectorTutorial.Proofs.Session.Staleness
import SelectorTutorial.Proofs.Session.Effect
import SelectorTutorial.Proofs.Session.CurrentResult
import SelectorTutorial.Proofs.Session.Overlay
import SelectorTutorial.Proofs.Session.ShownLesson
import SelectorTutorial.Proofs.Session.Panel
import SelectorTutorial.Proofs.Session.Loading
import SelectorTutorial.Proofs.Session.Complaint
import SelectorTutorial.Proofs.Session.History
import SelectorTutorial.Proofs.Session.Store
import SelectorTutorial.Proofs.Session.Undated
import SelectorTutorial.Proofs.Session.LateContent
import SelectorTutorial.Proofs.Session.KnownLessons
import SelectorTutorial.Proofs.Session.Settling
import SelectorTutorial.Proofs.Session.Exchange
import SelectorTutorial.Proofs.Session.Redirect
import SelectorTutorial.Proofs.Session.Conclusion
import SelectorTutorial.Proofs.Session.InFlight
import SelectorTutorial.Proofs.Session.ArrivalOrder
import SelectorTutorial.Proofs.Viewport.Cache
import SelectorTutorial.Viewport.Drawing
import SelectorTutorial.Proofs.Viewport.Drawing
import SelectorTutorial.Proofs.Backend.LessonUrl
import SelectorTutorial.Proofs.Backend.Reply
import SelectorTutorial.Proofs.Json.Member
import SelectorTutorial.Proofs.Json.Fields
import SelectorTutorial.Proofs.Number.Binary64
import SelectorTutorial.Proofs.Json.Sound
import SelectorTutorial.Proofs.Json.RoundTrip
import SelectorTutorial.Proofs.Url.Plain
import SelectorTutorial.Proofs.Url.Ending
import SelectorTutorial.Proofs.Backend.LessonsUrl
import SelectorTutorial.Proofs.CommandLine.Runs
import SelectorTutorial.Proofs.CommandLine.Calls
import SelectorTutorial.Proofs.CommandLine.Parts
import SelectorTutorial.Proofs.CommandLine.PlaygroundRun
import SelectorTutorial.Proofs.CommandLine.LessonRun
import SelectorTutorial.Proofs.CommandLine.RequestOrder
import SelectorTutorial.Proofs.Text.Blank
import SelectorTutorial.Proofs.Settings.Base
import SelectorTutorial.Proofs.Navigation.LessonOrder
import SelectorTutorial.Proofs.Navigation.Path
import SelectorTutorial.Proofs.Navigation.Walk
import SelectorTutorial.Proofs.Backend.Reason
import SelectorTutorial.Proofs.Backend.Detail
import SelectorTutorial.Proofs.Session.Message
import SelectorTutorial.Proofs.CommandLine.Transcript
import SelectorTutorial.Proofs.CommandLine.Download
import SelectorTutorial.Proofs.Text.Utf8
import SelectorTutorial.Proofs.Settings.Layers
import SelectorTutorial.Proofs.Session.Filters
import SelectorTutorial.Proofs.Viewport.Glb
import SelectorTutorial.Proofs.Session.Made
import SelectorTutorial.Proofs.Session.Guard
import SelectorTutorial.Proofs.Session.Compilation
import SelectorTutorial.Proofs.Session.Form
import SelectorTutorial.Proofs.Session.Failure
import SelectorTutorial.Proofs.Session.Currency
import SelectorTutorial.Proofs.Upload
import SelectorTutorial.Proofs.Session.Lists
