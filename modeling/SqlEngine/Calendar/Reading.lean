import SqlEngine.Calendar.Timestamp
import SqlEngine.Text.Blank
import SqlEngine.Text.Scan

/-!
# Reading dates and timestamps

A date is written as year, month and day; a timestamp adds a time of day behind a blank or the
letter T.  Every field may have blanks in front of it.  A second form of timestamp has fields of
fixed width, a fraction of a second, and the distance to universal time, to which it is moved.
-/

namespace SqlEngine
namespace Reading

/-- The blanks at the front of a text. -/
def blanks : Scan Unit := fun chars =>
  .done ((), Text.trimStart chars)

/-- Digits that stand for a number. -/
def numeral (digits : Scan (List Char)) : Scan Nat := do
  let digits ← digits
  if digits.isEmpty then failure
  return Numeral.value digits

/-- A field of one or two digits. -/
def field : Scan Nat :=
  blanks *> numeral (Scan.spanUpTo 2 Char.isDigit)

/-- A year of up to four digits, or of any number of digits behind a sign. -/
def year : Scan Int := do
  blanks
  (Scan.char '-' *> (return -((← numeral (Scan.span Char.isDigit) : Nat) : Int)))
    <|> (Scan.char '+' *> (return ((← numeral (Scan.span Char.isDigit) : Nat) : Int)))
    <|> (return ((← numeral (Scan.spanUpTo 4 Char.isDigit) : Nat) : Int))

/-- A date that exists. -/
def date : Scan Date := do
  let year ← year
  Scan.char '-'
  let month ← field
  Scan.char '-'
  let day ← field
  Scan.given (Date.of? year month day)

/-- A time that exists, to the second. -/
def time : Scan Time := do
  let hour ← field
  Scan.char ':'
  let minute ← field
  Scan.char ':'
  let second ← field
  Scan.given (Time.ofClock? hour minute second 0)

/-- A date and a time, with something in between. -/
def dateTime (between : Scan Unit) : Scan Timestamp := do
  let date ← date
  between
  return ⟨date, ← time⟩

/-- A field of exactly `width` digits. -/
def fixed (width : Nat) : Scan Nat := do
  let digits ← Scan.spanUpTo width Char.isDigit
  if digits.length ≠ width then failure
  return Numeral.value digits

/-- The nanoseconds of a fraction of a second; digits past the ninth are dropped. -/
def fraction : Scan Nat := do
  let digits ← Scan.span1 Char.isDigit
  let kept := digits.take 9
  return Numeral.value kept * Nat.pow 10 (9 - kept.length)

/-- The distance to universal time in minutes. -/
def offset : Scan Int := do
  let sign ← Scan.satisfy fun c => c == 'Z' || c == 'z' || c == '+' || c == '-' || c == '\u2212'
  if sign == 'Z' || sign == 'z' then return 0
  let hours ← fixed 2
  Scan.char ':'
  let minutes ← fixed 2
  if 23 < hours || 59 < minutes then failure
  let distance : Int := hours * 60 + minutes
  return if sign == '+' then distance else -distance

/-- A date and a time of fixed width with the distance to universal time. -/
def universal : Scan Timestamp := do
  let year ← fixed 4
  Scan.char '-'
  let month ← fixed 2
  Scan.char '-'
  let day ← fixed 2
  let _ ← Scan.satisfy fun c => c == 'T' || c == 't' || c == ' '
  let hour ← fixed 2
  Scan.char ':'
  let minute ← fixed 2
  Scan.char ':'
  let second ← fixed 2
  let nanosecond ← (Scan.char '.' *> fraction) <|> (Scan.notNext (· == '.') *> pure 0)
  let distance ← offset
  let date ← Scan.given (Date.of? year month day)
  let time ← Scan.given (Time.ofClock? hour minute second nanosecond)
  Scan.given ((⟨date, time⟩ : Timestamp).back? distance)

end Reading

/-- The date a text stands for. -/
def Date.ofText? (text : String) : Option Date :=
  Scan.whole Reading.date text

/-- The timestamp a text stands for; a date alone stands for its midnight. -/
def Timestamp.ofText? (text : String) : Option Timestamp :=
  Scan.whole (Reading.dateTime Reading.blanks) text
    <|> Scan.whole (Reading.dateTime (Scan.exactly "T")) text
    <|> Scan.whole Reading.universal text
    <|> (Date.ofText? text).map Date.atMidnight

end SqlEngine
