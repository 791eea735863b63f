import SelectorTutorial.Number.Decimal

/-! Dates and times of TOML, as they are written in a file and as a text can write them. -/

namespace SelectorTutorial

/-- Where the hours of a day end and how far from universal time a clock may be. -/
structure Toml.Clock where
  /-- The last hour of a day. -/
  lastHour : Nat
  /-- Whether some hours and minutes are the distance of a clock from universal time. -/
  reaches : (hours minutes : Nat) → Bool

namespace Toml

/-- The clock of dates and times that stand in a file by themselves. -/
def Clock.file : Clock where
  lastHour := 23
  reaches hours minutes := hours ≤ 23 && minutes ≤ 59

/-- The clock of dates and times in a text: a day may run into the next, and be a distance as
well. -/
def Clock.text : Clock where
  lastHour := 24
  reaches hours minutes := hours * 60 + minutes ≤ 24 * 60

/-- The number with two decimal digits. -/
def twoDigits? (a b : Char) : Option Nat := do
  return (← digitValue? a) * 10 + (← digitValue? b)

/-- Whether a year has a day more. -/
def isLeapYear (year : Nat) : Bool :=
  year % 4 == 0 && (year % 100 != 0 || year % 400 == 0)

/-- The number of days in a month. -/
def daysIn (year month : Nat) : Nat :=
  if month = 2 then if isLeapYear year then 29 else 28
  else if month = 4 ∨ month = 6 ∨ month = 9 ∨ month = 11 then 30
  else 31

/-- What follows a date. -/
def afterDate? : List Char → Option (List Char)
  | y₁ :: y₂ :: y₃ :: y₄ :: '-' :: m₁ :: m₂ :: '-' :: d₁ :: d₂ :: rest => do
    let year := (← twoDigits? y₁ y₂) * 100 + (← twoDigits? y₃ y₄)
    let month ← twoDigits? m₁ m₂
    let day ← twoDigits? d₁ d₂
    if 1 ≤ month ∧ month ≤ 12 ∧ 1 ≤ day ∧ day ≤ daysIn year month then some rest else none
  | _ => none

namespace Clock

/-- What follows a time of day; a minute may have a sixty-first second. -/
def afterTime? (clock : Clock) : List Char → Option (List Char)
  | h₁ :: h₂ :: ':' :: m₁ :: m₂ :: ':' :: s₁ :: s₂ :: rest => do
    let hour ← twoDigits? h₁ h₂
    let minute ← twoDigits? m₁ m₂
    let second ← twoDigits? s₁ s₂
    if clock.lastHour < hour ∨ 59 < minute ∨ 60 < second then none
    match rest with
    | '.' :: c :: rest => if c.isDigit then some (rest.dropWhile Char.isDigit) else none
    | '.' :: [] => none
    | _ => some rest
  | _ => none

/-- Whether some characters are nothing or the distance of a time from universal time. -/
def isOffset (clock : Clock) : List Char → Bool
  | [] => true
  | ['Z'] => true
  | ['z'] => true
  | [sign, h₁, h₂, ':', m₁, m₂] =>
    match twoDigits? h₁ h₂, twoDigits? m₁ m₂ with
    | some hours, some minutes => (sign == '+' || sign == '-') && clock.reaches hours minutes
    | _, _ => false
  | _ => false

/-- Whether some characters are a date, a time, or a date and a time with a mark between them. -/
def isMoment (clock : Clock) (cs : List Char) : Bool :=
  match afterDate? cs with
  | some [] => true
  | some (mark :: rest) =>
    (mark == 'T' || mark == 't' || mark == ' ') && (clock.afterTime? rest).any clock.isOffset
  | none => clock.afterTime? cs == some []

end Clock

end Toml

end SelectorTutorial
