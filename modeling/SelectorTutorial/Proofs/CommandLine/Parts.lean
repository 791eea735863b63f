import SelectorTutorial.Proofs.CommandLine.Calls
import SelectorTutorial.Proofs.Viewport.Scene

/-! What the parts ask for that the commands are put together from, and how a command goes on after
each of them. -/

namespace SelectorTutorial

open Exchanged

/-- A program has failed. -/
def Fails {α : Type} (ending : Except String α) : Prop :=
  ∃ message, ending = .error message

namespace Runs

variable {w : World} {α β : Type} {earlier : List Request} {log : List Exchanged}

/-- Printing asks for nothing. -/
theorem of_sayAll {texts : List String} {ending : Except String Unit}
    (runs : Runs w earlier (Script.sayAll texts) log ending) : log = [] ∧ ending = .ok () := by
  -- A line at a time is printed.
  induction texts with
  | nil =>
    cases runs
    exact ⟨rfl, rfl⟩
  | cons text texts ih =>
    change Runs w earlier (.print text (Script.sayAll texts)) log ending at runs
    cases runs with
    | print rest => exact ih rest

/-- To report asks for nothing, and fails just where something failed. -/
theorem of_report {action : String} {outcome : Outcome} {ending : Except String Unit}
    (runs : Runs w earlier (Commands.report action outcome) log ending) :
    log = [] ∧ ((∃ message, outcome = .failed message) ↔ ∃ message, ending = .error message) := by
  -- By the outcomes: only a failure ends the program.
  cases outcome with
  | failed message =>
    cases runs
    exact ⟨rfl, by simp⟩
  | skipped =>
    cases runs with
    | print rest =>
      cases rest
      exact ⟨rfl, by simp⟩
  | applied | superseded =>
    cases runs
    exact ⟨rfl, by simp⟩

/-- The meshes of some layers are asked for one after another, and whatever becomes of them the
fetching ends. -/
theorem of_fetchAll {layers : List Layer} {ending : Except String Frame}
    (runs : Runs w earlier (Script.fetchAll layers) log ending) :
    (calls log).Sublist (layers.map fun layer => .asset layer.url) ∧
      ∃ frame, ending = .ok frame := by
  -- Each layer is asked for once, and one that cannot be fetched does not end the program.
  induction layers generalizing earlier log ending with
  | nil =>
    cases runs
    exact ⟨.slnil, _, rfl⟩
  | cons layer layers ih =>
    cases runs with
    | ask asks rest =>
      rcases of_bind rest with ⟨message, failed, -⟩ | ⟨first, frame, more, here, there, rfl⟩
      · obtain ⟨-, frame, ended⟩ := ih failed
        cases ended
      · cases there
        obtain ⟨sublist, -⟩ := ih here
        refine ⟨?_, _, rfl⟩
        rw [List.append_nil]
        cases asks with
        | unsent => exact sublist.cons _
        | sent => exact sublist.cons_cons _

variable {ending : Except String β}

/-- After a part that asks for nothing a program has failed, or it goes on with the rest. -/
theorem of_bind_of_silent {script : Script α} {next : α → Script β}
    (runs : Runs w earlier (script.bind next) log ending)
    (silent : ∀ {first ending}, Runs w earlier script first ending → first = []) :
    (log = [] ∧ ∃ message, Runs w earlier script [] (.error message) ∧ ending = .error message) ∨
      ∃ value, Runs w earlier script [] (.ok value) ∧ Runs w earlier (next value) log ending := by
  -- The log of the first part is empty wherever it ended.
  rcases of_bind runs with ⟨message, failed, ends⟩ | ⟨first, value, rest, here, there, rfl⟩
  · cases silent failed
    exact .inl ⟨rfl, message, failed, ends⟩
  · cases silent here
    rw [requests_nil, List.append_nil] at there
    exact .inr ⟨value, here, there⟩

/-- After something was printed a program goes on. -/
theorem of_sayAll_bind {texts : List String} {next : Unit → Script β}
    (runs : Runs w earlier ((Script.sayAll texts).bind next) log ending) :
    Runs w earlier (next ()) log ending := by
  -- To print asks for nothing and cannot fail.
  rcases of_bind_of_silent runs fun said => (of_sayAll said).1 with
    ⟨-, message, failed, -⟩ | ⟨_, -, rest⟩
  · cases (of_sayAll failed).2
  · exact rest

/-- A program goes on after what it reports unless that is a failure. -/
theorem of_report_bind {action : String} {outcome : Outcome} {next : Unit → Script β}
    (runs : Runs w earlier ((Commands.report action outcome).bind next) log ending) :
    ((∃ message, outcome = .failed message) ∧ log = [] ∧ Fails ending) ∨
      (¬ (∃ message, outcome = .failed message) ∧ Runs w earlier (next ()) log ending) := by
  -- The report decides alone; nothing that it prints can fail.
  rcases of_bind_of_silent runs fun reported => (of_report reported).1 with
    ⟨rfl, message, failed, ends⟩ | ⟨_, reported, rest⟩
  · exact .inl ⟨(of_report failed).2.mpr ⟨message, rfl⟩, rfl, message, ends⟩
  · refine .inr ⟨fun failed => ?_, rest⟩
    obtain ⟨message, ended⟩ := (of_report reported).2.mp failed
    cases ended

/-- A program goes on after each call of a session. -/
theorem of_perform_bind {s : Session} {call : Session.Call}
    {next : Session × Session.Result → Script β}
    (runs : Runs w earlier ((Script.perform s call).bind next) log ending) :
    ∃ t result first rest, Runs w earlier (Script.perform s call) first (.ok (t, result)) ∧
      Runs w (earlier ++ requests first) (next (t, result)) rest ending ∧ log = first ++ rest := by
  -- A call of a session always ends in a value, never in a message.
  rcases of_bind runs with ⟨message, failed, -⟩ | ⟨first, ⟨t, result⟩, rest, here, there, rfl⟩
  · obtain ⟨t, result, ended, -⟩ := Session.Completes.of_perform failed
    cases ended
  · exact ⟨t, result, first, rest, here, there, rfl⟩

/-- A call of a session that a program has made was made to its end. -/
theorem completes {s t : Session} {call : Session.Call} {result : Session.Result}
    (runs : Runs w earlier (Script.perform s call) log (.ok (t, result))) :
    Session.Completes w earlier (s.begin ⟨0⟩ call) log t result := by
  -- The call has come to one end only.
  obtain ⟨t', result', ended, completes⟩ := Session.Completes.of_perform runs
  cases ended
  exact completes

/-- A picture has two layers at most, each of which is fetched once. -/
theorem of_draw {scene : Scene} {ending : Except String Unit}
    (runs : Runs w earlier (Commands.draw scene) log ending) :
    AtMost 2 BackendCall.IsAsset log ∧ ending = .ok () := by
  -- Only the middle of three parts makes calls; the others print.
  have rest := of_sayAll_bind runs
  rcases of_bind rest with ⟨message, failed, -⟩ | ⟨first, frame, more, here, there, rfl⟩
  · obtain ⟨-, frame, ended⟩ := of_fetchAll failed
    cases ended
  · obtain ⟨rfl, ended⟩ := of_sayAll there
    obtain ⟨listed, -⟩ := of_fetchAll here
    rw [List.append_nil]
    refine ⟨⟨?_, ?_⟩, ended⟩
    · have few := listed.length_le
      -- There is one layer for each of two parts at most.
      have parts := scene.roles_sublist.length_le
      rw [Exchanged.calls, List.length_map, List.length_map] at few
      rw [List.length_map] at parts
      exact Nat.le_trans few parts
    · intro e mem
      obtain ⟨layer, -, same⟩ := List.mem_map.mp (listed.subset (List.mem_map_of_mem mem))
      rw [← same]
      trivial

end Runs

end SelectorTutorial
