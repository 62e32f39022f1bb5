import SqlEngine.Text.Numeral

/-!
# Dates

Days of the Gregorian calendar, extended to all years in reach.  A date carries the proof that its
day exists.
-/

namespace SqlEngine

/-- Whether a year has a 29th of February. -/
def isLeapYear (year : Int) : Bool :=
  year % 4 == 0 && (year % 100 != 0 || year % 400 == 0)

/-- The number of days of a month. -/
def daysInMonth (year : Int) (month : Nat) : Nat :=
  if month = 2 then (if isLeapYear year then 29 else 28)
  else if month = 4 ∨ month = 6 ∨ month = 9 ∨ month = 11 then 30
  else 31

/-- Whether a day exists and its year is in reach. -/
def Date.Valid (year : Int) (month day : Nat) : Prop :=
  -262143 ≤ year ∧ year ≤ 262142 ∧ 1 ≤ month ∧ month ≤ 12 ∧ 1 ≤ day ∧ day ≤ daysInMonth year month

instance (year : Int) (month day : Nat) : Decidable (Date.Valid year month day) :=
  inferInstanceAs (Decidable (_ ∧ _))

/-- A day of the calendar. -/
structure Date where
  /-- The year, counted with a year zero. -/
  year : Int
  /-- The month, from 1 to 12. -/
  month : Nat
  /-- The day of the month, from 1. -/
  day : Nat
  /-- The day exists. -/
  valid : Date.Valid year month day
  deriving DecidableEq

namespace Date

/-- The date with given year, month and day, if there is one. -/
def of? (year : Int) (month day : Nat) : Option Date :=
  if valid : Valid year month day then some ⟨year, month, day, valid⟩ else none

/-- Dates are ordered by year, then month, then day. -/
def compare (left right : Date) : Ordering :=
  (Ord.compare left.year right.year).then
    ((Ord.compare left.month right.month).then (Ord.compare left.day right.day))

/-- The day after. -/
def next? (date : Date) : Option Date :=
  of? date.year date.month (date.day + 1)
    <|> of? date.year (date.month + 1) 1
    <|> of? (date.year + 1) 1 1

/-- The day before. -/
def previous? (date : Date) : Option Date :=
  of? date.year date.month (date.day - 1)
    <|> of? date.year (date.month - 1) (daysInMonth date.year (date.month - 1))
    <|> of? (date.year - 1) 12 31

/-- A year in at least four digits, with a sign unless it lies between 0 and 9999. -/
def yearChars (year : Int) : List Char :=
  if year < 0 then '-' :: Numeral.padded 4 year.natAbs
  else if 9999 < year then '+' :: Numeral.padded 4 year.natAbs
  else Numeral.padded 4 year.natAbs

/-- The date as year, month and day with dashes between them. -/
def chars (date : Date) : List Char :=
  yearChars date.year ++ '-' :: Numeral.padded 2 date.month ++ '-' :: Numeral.padded 2 date.day

/-- The date as text. -/
def toText (date : Date) : String :=
  String.ofList date.chars

end Date
end SqlEngine
