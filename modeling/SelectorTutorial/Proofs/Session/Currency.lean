import Mathlib.Data.List.Induction
import SelectorTutorial.Proofs.Session.Errand

/-! Of the tickets of a lane only the newest can count, until something else happens in the lane. -/

namespace SelectorTutorial

namespace Tickets

/-- What can be done to the tickets of a page. -/
inductive Move where
  /-- A ticket is issued. -/
  | issue (lane : Lane)
  /-- The tickets of a lane are made late. -/
  | invalidate (lane : Lane)
deriving DecidableEq, Repr

/-- The lane in which something is done. -/
def Move.lane : Move → Lane
  | issue lane => lane
  | invalidate lane => lane

/-- The tickets after a move. -/
def apply (t : Tickets) : Move → Tickets
  | .issue lane => (t.issue lane).2
  | .invalidate lane => t.invalidate lane

/-- The tickets after some moves. -/
def after (t : Tickets) (moves : List Move) : Tickets :=
  moves.foldl apply t

/-- The ticket that a move issues. -/
def issued? (t : Tickets) : Move → Option Ticket
  | .issue lane => some (t.issue lane).1
  | .invalidate _ => none

/-- All tickets that some moves issue, the oldest first. -/
def issuedBy (t : Tickets) : List Move → List Ticket
  | [] => []
  | move :: moves => (t.issued? move).toList ++ (t.apply move).issuedBy moves

/-- How many of some moves are made in a lane. -/
def movesIn (lane : Lane) (moves : List Move) : Nat :=
  moves.countP (·.lane = lane)

/-- A ticket is issued in the lane that it was asked for. -/
@[simp] theorem issue_lane (t : Tickets) (lane : Lane) : (t.issue lane).1.lane = lane := rfl

/-- No moves leave the tickets as they are. -/
@[simp] theorem after_nil (t : Tickets) : t.after [] = t := rfl

/-- Moves are made one after the other. -/
@[simp] theorem after_cons (t : Tickets) (move : Move) (moves : List Move) :
    t.after (move :: moves) = (t.apply move).after moves := rfl

/-- A row of moves is made in two parts. -/
@[simp] theorem after_append (t : Tickets) (moves more : List Move) :
    t.after (moves ++ more) = (t.after moves).after more := by
  -- To fold over two lists is to go on after the first.
  simp only [after, List.foldl_append]

/-- The moves in a lane are counted part by part. -/
@[simp] theorem movesIn_append (lane : Lane) (moves more : List Move) :
    movesIn lane (moves ++ more) = movesIn lane moves + movesIn lane more :=
  -- Counting goes along with putting lists together.
  List.countP_append

/-- A move in a lane is one more, and a move in another lane is none. -/
theorem movesIn_cons (lane : Lane) (move : Move) (moves : List Move) :
    movesIn lane (move :: moves) = movesIn lane moves + if move.lane = lane then 1 else 0 := by
  -- The first move is counted by its lane.
  simp [movesIn, List.countP_cons]

/-- The move that issues a ticket is one of those in its lane. -/
theorem movesIn_issue (lane : Lane) (earlier later : List Move) :
    movesIn lane (earlier ++ .issue lane :: later) =
      movesIn lane earlier + 1 + movesIn lane later := by
  -- It stands between the moves before it and those after it.
  rw [movesIn_append, movesIn_cons]
  simp only [Move.lane, if_true]
  omega

/-- No lane has more moves than there are. -/
theorem movesIn_le_length (lane : Lane) (moves : List Move) : movesIn lane moves ≤ moves.length :=
  -- It counts some of them.
  List.countP_le_length

/-- No move is made in a lane if all are made in others. -/
theorem movesIn_eq_zero_iff {lane : Lane} {moves : List Move} :
    movesIn lane moves = 0 ↔ ∀ move ∈ moves, move.lane ≠ lane := by
  -- None of them is counted.
  simp [movesIn, List.countP_eq_zero]

/-- Issuing a ticket and making tickets late move the number of a lane alike. -/
theorem apply_eq (t : Tickets) (move : Move) : t.apply move = t.invalidate move.lane := by
  -- To issue a ticket is to move the number and to tell it.
  cases move <;> rfl

/-- Each move takes up the number of its own lane by one. -/
theorem reached_apply (t : Tickets) (move : Move) (lane : Lane) :
    (t.apply move).reached lane =
      t.reached lane + UInt64.ofNat (if move.lane = lane then 1 else 0) := by
  -- A move leaves the numbers of all other lanes alone.
  rw [apply_eq]
  split
  · next same =>
    subst same
    exact reached_invalidate t move.lane
  · next different => simp [reached_invalidate_of_ne t different]

/-- The number reached in a lane grows by the moves that are made in it. -/
theorem reached_after (t : Tickets) (moves : List Move) (lane : Lane) :
    (t.after moves).reached lane = t.reached lane + UInt64.ofNat (movesIn lane moves) := by
  -- Move by move; numbers are added as they wrap around.
  induction moves generalizing t with
  | nil => simp [movesIn]
  | cons move moves ih =>
    rw [after_cons, ih, reached_apply, movesIn_cons, UInt64.ofNat_add, UInt64.add_assoc,
      UInt64.add_comm (UInt64.ofNat (movesIn lane moves))]

/-- The tickets of a longer row of moves are those of its parts, one after the other. -/
theorem issuedBy_append (t : Tickets) (moves more : List Move) :
    t.issuedBy (moves ++ more) = t.issuedBy moves ++ (t.after moves).issuedBy more := by
  -- Move by move, from the front.
  induction moves generalizing t with
  | nil => rfl
  | cons move moves ih => simp [issuedBy, ih]

/-- A ticket that was issued was so by some move, after the moves before it. -/
theorem exists_move_of_issuedBy {t : Tickets} {moves : List Move} {ticket : Ticket}
    (issued : ticket ∈ t.issuedBy moves) :
    ∃ earlier lane later, moves = earlier ++ .issue lane :: later ∧
      ticket = ((t.after earlier).issue lane).1 := by
  -- The ticket is that of the first move, or one of those after it.
  induction moves generalizing t with
  | nil => simp [issuedBy] at issued
  | cons move moves ih =>
    rcases List.mem_append.mp issued with first | rest
    · cases move with
      | invalidate lane => simp [issued?] at first
      | issue lane =>
        simp only [issued?, Option.mem_toList, Option.some.injEq] at first
        exact ⟨[], lane, moves, rfl, first.symm⟩
    · obtain ⟨earlier, lane, later, rfl, same⟩ := ih rest
      exact ⟨move :: earlier, lane, later, rfl, same⟩

/-! ### Among fewer than 2 ^ 64 moves -/

variable {moves : List Move}

/-- As long as the numbers do not come round, the number of a lane tells the moves in it. -/
theorem toNat_reached (few : moves.length < UInt64.size) (lane : Lane) :
    ((({} : Tickets).after moves).reached lane).toNat = movesIn lane moves := by
  -- All lanes start at zero, and the count stays below the bound.
  have start : ({} : Tickets).reached lane = 0 := by cases lane <;> rfl
  have bound := movesIn_le_length lane moves
  rw [reached_after, start, UInt64.zero_add]
  exact UInt64.toNat_ofNat_of_lt' (by omega)

/-- A ticket counts just when its number tells the moves in its lane. -/
theorem isCurrent_after_iff (few : moves.length < UInt64.size) (ticket : Ticket) :
    (({} : Tickets).after moves).isCurrent ticket = true ↔
      ticket.number.toNat = movesIn ticket.lane moves := by
  -- A ticket counts when it has the number that its lane has reached.
  rw [isCurrent_iff, ← UInt64.toNat_inj, toNat_reached few, eq_comm]

/-- The number of a ticket tells the moves in its lane up to the one that issued it. -/
theorem toNat_number {earlier later : List Move} {lane : Lane}
    (few : (earlier ++ Move.issue lane :: later).length < UInt64.size) :
    ((({} : Tickets).after earlier).issue lane).1.number.toNat = movesIn lane earlier + 1 := by
  -- The ticket has the number that is reached once it is issued.
  have issued : (earlier ++ [Move.issue lane]).length < UInt64.size :=
    Nat.lt_of_le_of_lt (List.IsPrefix.length_le ⟨later, by simp⟩) few
  have reached := toNat_reached issued lane
  rw [movesIn_issue, after_append] at reached
  exact reached

/-- The number of a ticket is one of those that its lane has reached. -/
theorem number_of_issuedBy (few : moves.length < UInt64.size) {ticket : Ticket}
    (issued : ticket ∈ ({} : Tickets).issuedBy moves) :
    0 < ticket.number.toNat ∧ ticket.number.toNat ≤ movesIn ticket.lane moves := by
  -- The ticket had the number that was reached by the move that issued it.
  obtain ⟨earlier, lane, later, rfl, rfl⟩ := exists_move_of_issuedBy issued
  have number := toNat_number few
  rw [issue_lane, movesIn_issue]
  omega

/-- A ticket counts until the next move in its lane. -/
theorem isCurrent_iff_untouched {earlier later : List Move} {lane : Lane}
    (few : (earlier ++ Move.issue lane :: later).length < UInt64.size) :
    (({} : Tickets).after (earlier ++ Move.issue lane :: later)).isCurrent
        ((({} : Tickets).after earlier).issue lane).1 = true ↔
      ∀ move ∈ later, move.lane ≠ lane := by
  -- By the numbers: that of the ticket, and that of all moves in its lane, which is larger by those
  -- after it.
  rw [isCurrent_after_iff few, toNat_number few, issue_lane, ← movesIn_eq_zero_iff, movesIn_issue]
  omega

/-- Of two tickets of one lane the later one has the greater number. -/
theorem number_increases (few : moves.length < UInt64.size) :
    (({} : Tickets).issuedBy moves).Pairwise fun first second =>
      first.lane = second.lane → first.number < second.number := by
  -- By the last move, which issues a ticket above all numbers that its lane has reached before.
  induction moves using List.reverseRecOn with
  | nil => exact .nil
  | append_singleton moves move ih =>
    have fewer := Nat.lt_of_le_of_lt (List.prefix_append moves [move]).length_le few
    rw [issuedBy_append, List.pairwise_append]
    cases move with
    | invalidate lane => exact ⟨ih fewer, .nil, by simp [issuedBy, issued?]⟩
    | issue lane =>
      refine ⟨ih fewer, List.pairwise_singleton _ _, fun first before second last same => ?_⟩
      obtain rfl : second = ((({} : Tickets).after moves).issue lane).1 := by
        simpa [issuedBy, issued?] using last
      have below := (number_of_issuedBy fewer before).2
      rw [same, issue_lane] at below
      rw [UInt64.lt_iff_toNat_lt, toNat_number few]
      exact Nat.lt_succ_of_le below

/-- Of two tickets of one lane at most one counts. -/
theorem not_both_isCurrent (few : moves.length < UInt64.size) :
    (({} : Tickets).issuedBy moves).Pairwise fun first second => first.lane = second.lane →
      ¬ ((({} : Tickets).after moves).isCurrent first = true ∧
        (({} : Tickets).after moves).isCurrent second = true) := by
  refine (number_increases few).imp fun grows same both => ?_
  -- Both would have the number that their lane has reached.
  have less := grows same
  rw [← (isCurrent_iff _ _).mp both.1, ← (isCurrent_iff _ _).mp both.2, same] at less
  exact UInt64.lt_irrefl _ less

/-- A ticket that does not count any more never counts again. -/
theorem not_isCurrent_later {now rest : List Move} (few : (now ++ rest).length < UInt64.size)
    {ticket : Ticket} (issued : ticket ∈ ({} : Tickets).issuedBy now)
    (late : (({} : Tickets).after now).isCurrent ticket = false) :
    (({} : Tickets).after (now ++ rest)).isCurrent ticket = false := by
  have fewer := Nat.lt_of_le_of_lt (List.prefix_append now rest).length_le few
  have reached := (number_of_issuedBy fewer issued).2
  -- Its lane is past its number, and goes on from there.
  rw [← Bool.not_eq_true, isCurrent_after_iff fewer] at late
  rw [← Bool.not_eq_true, isCurrent_after_iff few, movesIn_append]
  omega

/-- Among fewer than 2 ^ 64 moves, in whatever lanes, a ticket counts at the end just when after the
move that issued it no other move was made in its lane.  So at each time at most one of the tickets
of a lane counts, one that counts no more never does so again, and the numbers of the tickets of a
lane, none of which is zero, grow from each ticket to the next. -/
theorem counts_iff_untouched {moves : List Move} (few : moves.length < UInt64.size) :
    (∀ earlier lane later, moves = earlier ++ .issue lane :: later →
      ((({} : Tickets).after moves).isCurrent ((({} : Tickets).after earlier).issue lane).1 = true ↔
        ∀ move ∈ later, move.lane ≠ lane)) ∧
    (∀ now rest, moves = now ++ rest →
      ((({} : Tickets).issuedBy now).Pairwise fun first second => first.lane = second.lane →
        ¬ ((({} : Tickets).after now).isCurrent first = true ∧
          (({} : Tickets).after now).isCurrent second = true)) ∧
      ∀ ticket ∈ ({} : Tickets).issuedBy now, (({} : Tickets).after now).isCurrent ticket = false →
        (({} : Tickets).after moves).isCurrent ticket = false) ∧
    ((({} : Tickets).issuedBy moves).Pairwise fun first second =>
      first.lane = second.lane → first.number < second.number) ∧
    ∀ ticket ∈ ({} : Tickets).issuedBy moves, ticket.number ≠ 0 := by
  -- All four parts come down to how many moves were made in a lane before a ticket was issued, and
  -- after.
  refine ⟨?untouched, ?once, number_increases few, fun ticket issued zero => ?nonzero⟩
  case untouched =>
    rintro earlier lane later rfl
    exact isCurrent_iff_untouched few
  case once =>
    rintro now rest rfl
    have fewer := Nat.lt_of_le_of_lt (List.prefix_append now rest).length_le few
    exact ⟨not_both_isCurrent fewer, fun ticket => not_isCurrent_later few⟩
  case nonzero =>
    have positive := (number_of_issuedBy few issued).1
    rw [zero] at positive
    exact Nat.lt_irrefl 0 positive

/-- Two tickets for models, one for a selection between them, and all lessons made late. -/
def twoModels : List Move :=
  [.issue .compile, .issue .selection, .issue .compile, .invalidate .lesson]

/-- The second ticket for a model counts, the first one does not and never will, and that for the
selection counts along with it. -/
theorem second_model_counts :
    twoModels.length < UInt64.size ∧
    (({} : Tickets).after twoModels).isCurrent ⟨.compile, 2⟩ = true ∧
    (({} : Tickets).after twoModels).isCurrent ⟨.selection, 1⟩ = true ∧
    (({} : Tickets).after twoModels).isCurrent ⟨.compile, 1⟩ = false ∧
    ∀ ticket ∈ ({} : Tickets).issuedBy twoModels, ticket.number ≠ 0 := by
  -- The theorem is applied where each of the tickets was issued.
  have few : twoModels.length < UInt64.size := by decide
  obtain ⟨untouched, once, -, positive⟩ := counts_iff_untouched few
  refine ⟨few, ?second, ?selection, ?first, positive⟩
  case second =>
    exact (untouched [.issue .compile, .issue .selection] .compile _ rfl).mpr (by decide)
  case selection => exact (untouched [.issue .compile] .selection _ rfl).mpr (by decide)
  case first =>
    refine (once (twoModels.take 3) _ rfl).2 ⟨.compile, 1⟩ (by decide) (by decide)

end Tickets

end SelectorTutorial
