import SqlEngine.ColumnType

/-!
# Relations

A relation is a table: a name, columns, and rows in the order in which they came.  Rows are taken
in all together or not at all, and only if no column that must have distinct values gets one twice.
Two values are the same if their literals are; nulls are never the same.
-/

namespace SqlEngine

/-- A column of a table. -/
structure Column where
  /-- The name. -/
  name : String
  /-- The type of the cells. -/
  type : ColumnType
  /-- Whether the column was declared to have no null. -/
  notNull : Bool := false
  /-- Whether the column is the key. -/
  primaryKey : Bool := false
  /-- Whether the column was declared to have no value twice. -/
  unique : Bool := false
  /-- The value of a cell that a row does not give. -/
  default : Option Value := none
  /-- Whether the column numbers its rows. -/
  autoincrement : Bool := false
  deriving DecidableEq

namespace Column

/-- The column of a name and a type; one that numbers its rows has no null. -/
def ofType (name : String) (type : ColumnType) : Column :=
  { name, type, notNull := type == .serial, autoincrement := type == .serial }

/-- Whether no value may stand in the column twice. -/
def isUnique (column : Column) : Bool :=
  column.unique || column.primaryKey

/-- Whether no null may stand in the column. -/
def isNotNull (column : Column) : Bool :=
  column.notNull || column.primaryKey

/-- Refuses a null where none may stand. -/
def checkNull (column : Column) (value : Value) : Except Error Unit :=
  if value.isNull && column.isNotNull then .error (.constraint (.nullCell column.name))
  else .ok ()

end Column

/-- A row of a table: a cell for each column. -/
abbrev Row := List Value

/-- The cell of a row at a given place. -/
def Row.cell (row : Row) (place : Nat) : Except Error Value :=
  match row[place]? with
  | some value => .ok value
  | none => .error (.noCell place)

/-- The row with another value at a given place. -/
def Row.put (row : Row) (place : Nat) (value : Value) : Except Error Row :=
  if place < row.length then .ok (row.set place value) else .error (.noCell place)

/-- A number above `id` and not below `current`. -/
def advance (current id : Int64) : Except Error Int64 :=
  if id = Int64.maxValue then .error (.constraint .exhausted)
  else .ok (if current ≤ id then id + 1 else current)

/-- Refuses rows of which two have the same value at a place, or one has a value seen before. -/
def checkDistinct (column : Column) (place : Nat) (seen : List String) :
    List Row → Except Error Unit
  | [] => .ok ()
  | row :: rows => do
    let value ← row.cell place
    if value.isNull then checkDistinct column place seen rows
    else if seen.contains value.literal then
      .error (.constraint (.duplicate value.toText column.name))
    else checkDistinct column place (value.literal :: seen) rows

/-- A table. -/
structure Relation where
  /-- The name. -/
  name : String
  /-- The columns, in order. -/
  columns : List Column
  /-- The rows, in the order in which they came. -/
  rows : List Row := []
  /-- The number of the next row, for a column that numbers its rows. -/
  sequence : Int64 := 1
  deriving DecidableEq

namespace Relation

/-- Refuses rows with a value twice in a column where no value may stand twice. -/
def checkUnique (relation : Relation) (rows : List Row) : Except Error Unit :=
  relation.columns.zipIdx.forM fun (column, place) =>
    if column.isUnique then checkDistinct column place [] rows else .ok ()

/-- The table with one more row, of which only the number of cells is looked at. -/
def insert (relation : Relation) (row : Row) : Except Error Relation :=
  if row.length ≠ relation.columns.length then .error .columnCountMismatch
  else .ok { relation with rows := relation.rows ++ [row] }

/-- The table with more rows. -/
def insertAll (relation : Relation) (rows : List Row) : Except Error Relation := do
  if rows.any (·.length != relation.columns.length) then .error .columnCountMismatch
  relation.checkUnique (relation.rows ++ rows)
  return { relation with rows := relation.rows ++ rows }

/-- The table with other rows. -/
def replaceRows (relation : Relation) (rows : List Row) : Except Error Relation := do
  relation.checkUnique rows
  return { relation with rows }

/-- The column with a given name, and its place. -/
def column (relation : Relation) (name : String) : Except Error (Column × Nat) :=
  match relation.columns.zipIdx.find? (·.1.name == name) with
  | some found => .ok found
  | none => .error (.shape (.unknownColumn name relation.name))

/-- The names of the columns. -/
def columnNames (relation : Relation) : List String :=
  relation.columns.map (·.name)

end Relation
end SqlEngine
