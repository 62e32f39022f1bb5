import SqlEngine.Error
import SqlEngine.Text.UpperCase
import SqlEngine.Value

/-!
# Column types

The type of a column says which values its cells can have, and which other values are changed into
those when they are stored.
-/

namespace SqlEngine

/-- The type of a column. -/
inductive ColumnType where
  /-- Whole numbers. -/
  | integer
  /-- Whole numbers that number the rows. -/
  | serial
  /-- Floating-point numbers. -/
  | real
  /-- Texts. -/
  | text
  /-- Texts of at most `limit` characters. -/
  | varchar (limit : Nat)
  /-- Truth values. -/
  | boolean
  /-- Days. -/
  | date
  /-- Moments. -/
  | timestamp
  deriving DecidableEq

namespace ColumnType

/-- The name of a type. -/
def name : ColumnType → String
  | integer => "INTEGER"
  | serial => "SERIAL"
  | real => "REAL"
  | text => "TEXT"
  | varchar limit => s!"VARCHAR({limit})"
  | boolean => "BOOLEAN"
  | date => "DATE"
  | timestamp => "TIMESTAMP"

/-- The type that a name in capitals stands for, with an optional length. -/
def ofCapitals? (name : String) (length : Option Nat) : Option ColumnType :=
  if name ∈ ["INT", "INTEGER", "SMALLINT", "BIGINT", "TINYINT"] then some integer
  else if name ∈ ["SERIAL", "BIGSERIAL"] then some serial
  else if name ∈ ["REAL", "FLOAT", "DOUBLE", "DECIMAL", "NUMERIC"] then some real
  else if name = "TEXT" then some text
  else if name ∈ ["VARCHAR", "CHAR", "CHARACTER"] then some (length.elim text varchar)
  else if name ∈ ["BOOL", "BOOLEAN"] then some boolean
  else if name = "DATE" then some date
  else if name ∈ ["TIMESTAMP", "DATETIME"] then some timestamp
  else none

/-- The type that a name stands for in any case, with an optional length. -/
def ofName (name : String) (length : Option Nat) : Except Error ColumnType :=
  let capitals := Text.upperCase name
  match ofCapitals? capitals length with
  | some type => .ok type
  | none => .error (.unsupported (.columnType capitals))

/-- The value that a cell of a type gets for a given value.  A null stays a null. -/
def coerce (type : ColumnType) (value : Value) : Except Error Value :=
  match type, value with
  | _, .null => .ok .null
  | integer, .integer number => .ok (.integer number)
  | serial, .integer number => .ok (.integer number)
  | real, .real number => .ok (.real number)
  | real, .integer number => .ok (.real (Value.asReal number))
  | text, .text content => .ok (.text content)
  | varchar limit, .text content =>
    if limit < content.length then .error (.constraint (.tooLong limit)) else .ok (.text content)
  | boolean, .boolean truth => .ok (.boolean truth)
  | boolean, .integer number =>
    if number = 0 ∨ number = 1 then .ok (.boolean (number == 1)) else .error .typeMismatch
  | date, .date day => .ok (.date day)
  | date, .timestamp moment => .ok (.date moment.date)
  | date, .text content =>
    match Date.ofText? content with
    | some day => .ok (.date day)
    | none => .error .typeMismatch
  | timestamp, .timestamp moment => .ok (.timestamp moment)
  | timestamp, .date day => .ok (.timestamp day.atMidnight)
  | timestamp, .text content =>
    match Timestamp.ofText? content with
    | some moment => .ok (.timestamp moment)
    | none => .error .typeMismatch
  | _, _ => .error .typeMismatch

end ColumnType
end SqlEngine
