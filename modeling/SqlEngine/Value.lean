import SqlEngine.Calendar.Reading
import SqlEngine.Text.Quoting
import SqlEngine.Binary64.Text

/-!
# Values

The values of cells.  Values of one kind are ordered, and so are integers with reals and dates with
timestamps; a text stands for the date or timestamp that it spells when it meets one.  Every value
has a text, and a literal that a statement can contain.
-/

namespace SqlEngine

/-- The value of a cell. -/
inductive Value where
  /-- No value. -/
  | null
  /-- A whole number. -/
  | integer (number : Int64)
  /-- A floating-point number. -/
  | real (number : Binary64)
  /-- A text. -/
  | text (content : String)
  /-- A truth value. -/
  | boolean (truth : Bool)
  /-- A day. -/
  | date (day : Date)
  /-- A moment. -/
  | timestamp (moment : Timestamp)
  deriving DecidableEq

namespace Value

/-- The number of an integer. -/
def integer? : Value → Option Int64
  | integer number => some number
  | _ => none

/-- Whether a value is the null. -/
def isNull : Value → Bool
  | null => true
  | _ => false

/-- The floating-point number nearest to an integer. -/
def asReal (number : Int64) : Binary64 :=
  Binary64.ofInt number.toInt

/-- The order of two values, if they have one. -/
def compare? : Value → Value → Option Ordering
  | integer left, integer right => some (compare left.toInt right.toInt)
  | real left, real right => left.compare? right
  | integer left, real right => (asReal left).compare? right
  | real left, integer right => left.compare? (asReal right)
  | text left, text right => some (compare left right)
  | boolean left, boolean right => some (compare left right)
  | date left, date right => some (left.compare right)
  | timestamp left, timestamp right => some (left.compare right)
  | date left, timestamp right => some (left.atMidnight.compare right)
  | timestamp left, date right => some (left.compare right.atMidnight)
  | date left, text right => (Date.ofText? right).map left.compare
  | timestamp left, text right => (Timestamp.ofText? right).map left.compare
  | text left, date right => (Date.ofText? left).map (·.compare right)
  | text left, timestamp right => (Timestamp.ofText? left).map (·.compare right)
  | _, _ => none

/-- Whether two values are of one kind and equal; no number is equal to a NaN. -/
def equals : Value → Value → Bool
  | real left, real right => left.compare? right == some .eq
  | left, right => left == right

/-- A value as text. -/
def toText : Value → String
  | null => "NULL"
  | integer number => toString number.toInt
  | real number => number.toText
  | text content => content
  | boolean truth => if truth then "true" else "false"
  | date day => day.toText
  | timestamp moment => moment.toText

/-- A value as a cell of an answer, where the null has no text. -/
def cell? : Value → Option String
  | null => none
  | value => some value.toText

/-- A real as a literal, which has a point so as not to be read as an integer. -/
def realLiteral (number : Binary64) : String :=
  let chars := number.chars
  if chars.contains '.' || chars.contains 'e' then String.ofList chars
  else String.ofList (chars ++ ['.', '0'])

/-- A value as a literal of a statement. -/
def literal : Value → String
  | null => "NULL"
  | integer number => toString number.toInt
  | real number => realLiteral number
  | text content => Text.quoted content
  | boolean truth => if truth then "TRUE" else "FALSE"
  | date day => Text.quoted day.toText
  | timestamp moment => Text.quoted moment.toText

end Value
end SqlEngine
