import SelectorTutorial.Proofs.CommandLine.LessonRun
import SelectorTutorial.Proofs.CommandLine.PlaygroundRun

/-! In which order the commands ask for things, and after which failures they ask for nothing
more. -/

namespace SelectorTutorial

/-- These requests were sent, each for the call that it stands with. -/
structure World.Sends (w : World) (sent : List Request) (log : List Exchanged) : Prop where
  /-- They are all that was sent, in this order. -/
  all : sent = Exchanged.requests log
  /-- Each is the request that is sent for its call. -/
  each : ∀ e ∈ log, w.api.send w.link e.call = .ok e.request

/-- Whatever a program does in a world is a run of it. -/
theorem World.exists_runs (w : World) {α : Type} (script : Script α) :
    ∃ log, Runs w [] script log (w.run [] script).ending ∧
      w.Sends (w.run [] script).requests log := by
  -- The transcript has a log behind it, and of that log the requests are told.
  obtain ⟨log, runs, same⟩ := Runs.exists_of_run w [] script
  exact ⟨log, runs, same, runs.made⟩

namespace Commands

/-- The commands ask for things in a fixed order.  For the playground that is each of the two lists,
something to compile, a selector to run and two meshes, each of them at most once; after a file that
cannot be read, a model that is not compiled or a selector that fails nothing more is sent, and the
command fails.  For a lesson it is each of the two lists, the lessons once more if there are none
yet, the lesson with the model that it names, the first lesson in place of one that is not there, a
selector if that is wanted, and two meshes; after a load that fails nothing more is sent, and the
command fails. -/
theorem requests_in_order (w : World) (files : Files) :
    (∀ options : PlaygroundOptions,
      let run := w.run [] (script w.api files (.playground options))
      ∃ log : PlaygroundLog, w.Sends run.requests log.all ∧ log.IsOrdered ∧
        PlaygroundCourse w files options log run.ending) ∧
    ∀ options : LessonOptions,
      let run := w.run [] (script w.api files (.lesson options))
      ∃ log : LessonLog, w.Sends run.requests log.all ∧ log.IsOrdered ∧
        LessonCourse w options log run.ending := by
  -- Whatever was run has a log, and that log takes one of the courses.
  constructor
  · intro options run
    obtain ⟨log, runs, sends⟩ := w.exists_runs (script w.api files (.playground options))
    obtain ⟨parts, rfl, ordered, course⟩ := exists_playgroundCourse runs
    exact ⟨parts, sends, ordered, course⟩
  · intro options run
    obtain ⟨log, runs, sends⟩ := w.exists_runs (script w.api files (.lesson options))
    obtain ⟨parts, rfl, ordered, course⟩ := exists_lessonCourse runs
    exact ⟨parts, sends, ordered, course⟩

end Commands

end SelectorTutorial
