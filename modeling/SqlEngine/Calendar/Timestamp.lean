import SqlEngine.Calendar.Date

/-!
# Timestamps

A timestamp is a date with a time of day.  The last second of a minute may run on into a leap
second, whose nanoseconds are counted on from those of the second before it.
-/

namespace SqlEngine

/-- Whether a time of day exists. -/
def Time.Valid (hour minute second nanosecond : Nat) : Prop :=
  hour < 24 ∧ minute < 60 ∧ second < 60 ∧
    (nanosecond < 1000000000 ∨ second = 59 ∧ nanosecond < 2000000000)

instance (hour minute second nanosecond : Nat) :
    Decidable (Time.Valid hour minute second nanosecond) :=
  inferInstanceAs (Decidable (_ ∧ _))

/-- A time of day. -/
structure Time where
  /-- The hour, below 24. -/
  hour : Nat
  /-- The minute, below 60. -/
  minute : Nat
  /-- The second, below 60. -/
  second : Nat
  /-- The nanosecond; from 10^9 on it belongs to a leap second. -/
  nanosecond : Nat
  /-- The time exists. -/
  valid : Time.Valid hour minute second nanosecond
  deriving DecidableEq

namespace Time

/-- The time with given parts, if there is one. -/
def of? (hour minute second nanosecond : Nat) : Option Time :=
  if valid : Valid hour minute second nanosecond then
    some ⟨hour, minute, second, nanosecond, valid⟩
  else none

/-- The time with given parts, where second 60 stands for a leap second. -/
def ofClock? (hour minute second nanosecond : Nat) : Option Time :=
  if second = 60 then of? hour minute 59 (1000000000 + nanosecond)
  else of? hour minute second nanosecond

/-- The first moment of a day. -/
def midnight : Time :=
  ⟨0, 0, 0, 0, by decide⟩

/-- Times are ordered by hour, then minute, second and nanosecond. -/
def compare (left right : Time) : Ordering :=
  (Ord.compare left.hour right.hour).then
    ((Ord.compare left.minute right.minute).then
      ((Ord.compare left.second right.second).then
        (Ord.compare left.nanosecond right.nanosecond)))

/-- The time in hours, minutes and whole seconds; a leap second is second 60. -/
def chars (time : Time) : List Char :=
  Numeral.padded 2 time.hour ++ ':' :: Numeral.padded 2 time.minute ++
    ':' :: Numeral.padded 2 (time.second + time.nanosecond / 1000000000)

end Time

/-- A date with a time of day. -/
structure Timestamp where
  /-- The day. -/
  date : Date
  /-- The time of that day. -/
  time : Time
  deriving DecidableEq

namespace Timestamp

/-- Timestamps are ordered by date, then time. -/
def compare (left right : Timestamp) : Ordering :=
  (left.date.compare right.date).then (left.time.compare right.time)

/-- The timestamp as text, without fractions of a second. -/
def toText (timestamp : Timestamp) : String :=
  String.ofList (timestamp.date.chars ++ ' ' :: timestamp.time.chars)

/-- The same moment for a clock that runs `minutes` behind. -/
def back? (timestamp : Timestamp) (minutes : Int) : Option Timestamp := do
  let total : Int := timestamp.time.hour * 60 + timestamp.time.minute - minutes
  let date ←
    if total < 0 then timestamp.date.previous?
    else if 1440 ≤ total then timestamp.date.next?
    else some timestamp.date
  let ofDay := (total % 1440).toNat
  let time ← Time.of? (ofDay / 60) (ofDay % 60) timestamp.time.second timestamp.time.nanosecond
  return ⟨date, time⟩

end Timestamp

/-- The first moment of a date. -/
def Date.atMidnight (date : Date) : Timestamp :=
  ⟨date, Time.midnight⟩

end SqlEngine
