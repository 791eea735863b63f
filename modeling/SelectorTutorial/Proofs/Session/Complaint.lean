import SelectorTutorial.Proofs.Session.Loading

/-! What goes wrong beside an errand puts out the panel that waits for it. -/

namespace SelectorTutorial

namespace Session

/-- While the newest errand of its kind is in flight, its panel waits exactly as long as nothing
else is complained of there. -/
theorem isLoading_iff_uncomplained {s : Session} (idle : s.calls = []) {run : List Moment}
    (few : callsMade run < UInt64.size) {errand : Errand} {number : Nat} {since : List Stage}
    (newest : Newest (s.stages run) errand number since) {on : Waiting}
    (waits : (s.after run).waiting? number = some on) :
    ((s.after run).panel errand).isLoading = true ↔ ∀ g ∈ since, g.complaint? errand = none := by
  -- The panel is what has been shown since the start of the errand, and that stops waiting at the
  -- first complaint.
  rw [panel_eq_shownSince idle few newest waits, shownSince_isLoading_iff]

/-- An errand that was applied leaves its panel clean exactly if nothing else was complained of
there while it was in flight. -/
theorem clean_iff_uncomplained {s : Session} (idle : s.calls = []) {run : List Moment}
    (few : callsMade run < UInt64.size) {past later : List Stage} {last : Stage}
    (split : s.stages run = past ++ last :: later) {errand : Errand} {number : Nat}
    (ends : last.Ends errand number .applied) :
    ∃ since, Newest past errand number since ∧
      (last.after.panel errand = {} ↔ ∀ g ∈ since, g.complaint? errand = none) := by
  -- A success takes the waiting away and leaves what was complained of.
  obtain ⟨since, newest, panel⟩ := panel_of_applied idle few split ends
  exact ⟨since, newest, by rw [panel, shownSince_succeed_iff]⟩

/-- On the playground a panel waits for a call in flight whose ticket counts exactly as long as no
file and no bound was turned down since that was started, and it is clean once the call was applied
exactly if none was turned down in between. -/
theorem playground_panel_iff_uncomplained (shared : Snapshot) {run : List Moment}
    (few : callsMade run < UInt64.size) {errand : Errand} (own : errand.page = .playground) :
    (∀ number ticket, (({ shared } : Session).after run).held? number = some (errand, ticket) →
      ((({ shared } : Session).after run).tickets .playground).isCurrent ticket = true →
        ∃ since, Newest (({ shared } : Session).stages run) errand number since ∧
          (((({ shared } : Session).after run).panel errand).isLoading = true ↔
            ∀ g ∈ since, g.complaint? errand = none)) ∧
    (∀ (past later : List Stage) (last : Stage) (number : Nat),
      ({ shared } : Session).stages run = past ++ last :: later →
      last.Ends errand number .applied →
        ∃ since, Newest past errand number since ∧
          (last.after.panel errand = {} ↔ ∀ g ∈ since, g.complaint? errand = none)) := by
  constructor
  · -- A call whose ticket counts is on the newest errand of its kind.
    intro number ticket holds current
    rw [← own] at current
    obtain ⟨since, newest⟩ := newest_of_isCurrent rfl few holds current
    obtain ⟨on, waits, -⟩ := held?_eq_some_iff.1 holds
    exact ⟨since, newest, isLoading_iff_uncomplained rfl few newest waits⟩
  · intro past later last number split ends
    exact clean_iff_uncomplained rfl few split ends

/-- While something is compiled a file of the wrong kind is put in and turned down, and then the
model is there. -/
def rejectedRun : List Moment := [
  ⟨⟨0⟩, .edit (.form fun form => { form with source := "box()" })⟩,
  ⟨⟨1⟩, .call (.playground .compile)⟩,
  ⟨⟨2⟩, .edit (.form fun form => { form with upload := some ⟨"model.obj", []⟩ })⟩,
  ⟨⟨3⟩, .call (.playground .compile)⟩, ⟨⟨4⟩, .arrival 0 boxAnswers⟩]

/-- The panel does not wait for the compilation that is in flight, and still shows the file of the
wrong kind once that was applied. -/
theorem rejected_file_hides_compilation :
    (¬ ∀ run, callsMade run < UInt64.size → ∀ number ticket,
      (({} : Session).after run).held? number = some (.compile, ticket) →
      ((({} : Session).after run).tickets .playground).isCurrent ticket = true →
        ((({} : Session).after run).panel .compile).isLoading = true) ∧
    (¬ ∀ run, callsMade run < UInt64.size → ∀ g ∈ ({} : Session).stages run, ∀ number,
      g.Ends .compile number .applied → g.after.panel .compile = {}) := by
  -- The file is rejected between the start of the compilation and its answer; the first part looks
  -- before the answer, the second one after it.
  constructor
  · intro always
    have loading := always (rejectedRun.take 4) (by decide) 0 ⟨.compile, 1⟩ rfl rfl
    revert loading
    decide
  · intro always
    have clean := always rejectedRun (by decide)
      ((({} : Session).after (rejectedRun.take 4)).stage ⟨⟨4⟩, .arrival 0 boxAnswers⟩)
      (by simp [rejectedRun, stages_cons, stages_nil, after_cons, after_nil]) 0
      ⟨boxAnswers, _, _, _, rfl, rfl, rfl, rfl, rfl⟩
    revert clean
    decide

/-- The compilation that the wrong file came in between is the newest one, and something was
complained of since it was started. -/
theorem rejectedRun_iff_uncomplained :
    callsMade (rejectedRun.take 4) < UInt64.size ∧ Errand.compile.page = .playground ∧
    ∃ since, Newest (({} : Session).stages (rejectedRun.take 4)) .compile 0 since ∧
      (((({} : Session).after (rejectedRun.take 4)).panel .compile).isLoading = true ↔
        ∀ g ∈ since, g.complaint? .compile = none) := by
  -- The compilation is in flight with a ticket that counts.
  have few : callsMade (rejectedRun.take 4) < UInt64.size := by decide
  exact ⟨few, rfl, (playground_panel_iff_uncomplained {} few rfl).1 0 ⟨.compile, 1⟩ rfl rfl⟩

/-- The panel of the lesson waits for the load that was started last exactly as long as the lessons
did not turn out to be missing since then, and it is clean once a load was applied exactly if they
did not in between. -/
theorem lesson_panel_iff_uncomplained (shared : Snapshot) {run : List Moment}
    (few : callsMade run < UInt64.size) :
    (∀ (earlier since : List Stage) (first : Stage) (number : Nat) (on : Waiting),
      ({ shared } : Session).stages run = earlier ++ first :: since →
      first.Starts .load number → (∀ g ∈ since, ∀ other, ¬ g.Starts .load other) →
      (({ shared } : Session).after run).waiting? number = some on →
        (((({ shared } : Session).after run).panel .load).isLoading = true ↔
          ∀ g ∈ since, g.complaint? .load = none)) ∧
    (∀ (past later : List Stage) (last : Stage) (number : Nat),
      ({ shared } : Session).stages run = past ++ last :: later →
      last.Ends .load number .applied →
        ∃ since, Newest past .load number since ∧
          (last.after.panel .load = {} ↔ ∀ g ∈ since, g.complaint? .load = none)) := by
  constructor
  · -- Nothing but another load overtakes a load.
    intro earlier since first number on split starts last waits
    have newest : Newest (({ shared } : Session).stages run) .load number since :=
      ⟨earlier, first, split, starts, fun g member ⟨other, starts'⟩ => last g member other starts'⟩
    exact isLoading_iff_uncomplained rfl few newest waits
  · intro past later last number split ends
    exact clean_iff_uncomplained rfl few split ends

/-- While a lesson is loaded the lessons cannot be fetched for a path that names none, and then the
lesson is there. -/
def lostRun : List Moment := [
  ⟨⟨0⟩, .call (.lesson (.resolveRoute none))⟩, ⟨⟨1⟩, .call (.lesson (.load ⟨"welcome"⟩))⟩,
  ⟨⟨2⟩, .arrival 0 bareAnswers⟩, ⟨⟨3⟩, .arrival 1 bareAnswers⟩]

/-- The panel does not wait for the load that is in flight, and still tells of the missing lessons
once that was applied. -/
theorem missing_lessons_hide_load :
    (¬ ∀ run, callsMade run < UInt64.size → ∀ earlier first since number on,
      ({} : Session).stages run = earlier ++ first :: since → first.Starts .load number →
      (∀ g ∈ since, ∀ other, ¬ g.Starts .load other) →
      (({} : Session).after run).waiting? number = some on →
        ((({} : Session).after run).panel .load).isLoading = true) ∧
    (¬ ∀ run, callsMade run < UInt64.size → ∀ g ∈ ({} : Session).stages run, ∀ number,
      g.Ends .load number .applied → g.after.panel .load = {}) := by
  -- The lessons are missed between the start of the load and its answer; the first part looks
  -- before the answer, the second one after it.
  constructor
  · intro always
    have loading := always (lostRun.take 3) (by decide) (({} : Session).stages (lostRun.take 1)) _
      [(({} : Session).after (lostRun.take 2)).stage ⟨⟨2⟩, .arrival 0 bareAnswers⟩] 1
      (.lesson (.lesson ⟨.lesson, 1⟩ ⟨"welcome"⟩)) rfl ⟨_, _, _, rfl, rfl, rfl⟩
      (by
        intro g member other starts
        rw [List.mem_singleton.1 member] at starts
        exact Stage.not_starts_of_arrival rfl starts) rfl
    revert loading
    decide
  · intro always
    have clean := always lostRun (by decide)
      ((({} : Session).after (lostRun.take 3)).stage ⟨⟨3⟩, .arrival 1 bareAnswers⟩)
      (by simp [lostRun, stages_cons, stages_nil, after_cons, after_nil]) 1
      ⟨bareAnswers, _, _, _, rfl, rfl, rfl, rfl, rfl⟩
    revert clean
    decide

/-- The lesson was loaded although the lessons are missing, and something was complained of
meanwhile. -/
theorem lostRun_iff_uncomplained :
    callsMade lostRun < UInt64.size ∧
    ∃ since, Newest (({} : Session).stages (lostRun.take 3)) .load 1 since ∧
      ((({} : Session).after lostRun).panel .load = {} ↔
        ∀ g ∈ since, g.complaint? .load = none) := by
  -- The last stage ends the load as applied.
  have few : callsMade lostRun < UInt64.size := by decide
  have ends : ((({} : Session).after (lostRun.take 3)).stage ⟨⟨3⟩, .arrival 1 bareAnswers⟩).Ends
      .load 1 .applied := ⟨bareAnswers, _, _, _, rfl, rfl, rfl, rfl, rfl⟩
  exact ⟨few, (lesson_panel_iff_uncomplained {} few).2 _ [] _ 1 rfl ends⟩

end Session

end SelectorTutorial
