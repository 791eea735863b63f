/-! Points in time, to the second. -/

namespace SelectorTutorial

/-- A point in time. -/
structure Timestamp where
  /-- The seconds from the start of 1970 in universal time, negative before it. -/
  seconds : Int
deriving DecidableEq, Repr

namespace Timestamp

/-- The seconds in a day. -/
def secondsPerDay : Int := 86400

/-- A number with two digits. -/
def twoDigits (n : Nat) : String :=
  if n < 10 then "0" ++ toString n else toString n

/-- The time of day: hours, minutes and seconds in universal time. -/
def timeOfDay (t : Timestamp) : String :=
  let s := (t.seconds % secondsPerDay).toNat
  ":".intercalate [twoDigits (s / 3600), twoDigits (s / 60 % 60), twoDigits (s % 60)]

end Timestamp

end SelectorTutorial
