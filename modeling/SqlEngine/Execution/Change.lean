import SqlEngine.Database
import SqlEngine.Predicate
import SqlEngine.Reply

/-!
# Adding, changing and removing rows

Every statement works out all its rows before the table changes, so that one that fails changes
nothing.
-/

namespace SqlEngine

/-- The numbers that a table gives to its rows. -/
structure Numbering where
  /-- The next number. -/
  sequence : Int64
  /-- The last number given, or zero. -/
  lastId : Int64 := 0
  deriving DecidableEq

namespace Numbering

/-- Takes note of a value in a column that numbers its rows. -/
def note (numbering : Numbering) (value : Value) : Except Error Numbering := do
  match value with
  | .integer id => return { numbering with sequence := ← advance numbering.sequence id }
  | _ => return numbering

/-- The value of a cell, given what the row says about it. -/
def cell (numbering : Numbering) (column : Column) (given : Option Value) :
    Except Error (Value × Numbering) := do
  if column.autoincrement then
    match given with
    | some value =>
      if value.isNull then
        let value := Value.integer numbering.sequence
        return (value, ← { numbering with lastId := numbering.sequence }.note value)
      else return (value, ← numbering.note value)
    | none =>
      let value := Value.integer numbering.sequence
      return (value, ← { numbering with lastId := numbering.sequence }.note value)
  else return (given.getD (column.default.getD .null), numbering)

/-- The cells of a row, given what it says about each column. -/
def row (numbering : Numbering) : List (Column × Option Value) → Except Error (Row × Numbering)
  | [] => .ok ([], numbering)
  | (column, given) :: others => do
    let (value, numbering) ← numbering.cell column given
    column.checkNull value
    let (cells, numbering) ← numbering.row others
    return (value :: cells, numbering)

end Numbering

namespace Relation

/-- The columns that a list names, each once; an empty list names all. -/
def targets (relation : Relation) (names : List Tree) : Except Error (List (Column × Nat)) :=
  if names.isEmpty then .ok relation.columns.zipIdx
  else named [] names
where
  /-- The columns that a list names, none of which was named before. -/
  named (seen : List Nat) : List Tree → Except Error (List (Column × Nat))
    | [] => .ok []
    | name :: names => do
      let target ← relation.column name.lexeme
      if seen.contains target.2 then .error (.shape (.listedTwice name.lexeme))
      return target :: (← named (target.2 :: seen) names)

/-- The values that a row gives, each with the place of its column. -/
def givenValues (now : Timestamp) (targets : List (Column × Nat)) (literals : List Tree) :
    Except Error (List (Nat × Value)) :=
  (targets.zip literals).mapM fun ((column, place), literal) =>
    return (place, ← literal.typedValue now column.type)

/-- The rows that nodes stand for, and the numbering behind them. -/
def newRows (now : Timestamp) (relation : Relation) (targets : List (Column × Nat))
    (numbering : Numbering) : List Tree → Except Error (List Row × Numbering)
  | [] => .ok ([], numbering)
  | tuple :: tuples => do
    if tuple.children.length ≠ targets.length then .error .columnCountMismatch
    let given ← givenValues now targets tuple.children
    let (row, numbering) ← numbering.row
      (relation.columns.zipIdx.map fun (column, place) => (column, given.lookup place))
    let (rows, numbering) ← relation.newRows now targets numbering tuples
    return (row :: rows, numbering)

/-- The change to a row that a node stands for: a column, its place and its new value. -/
def assignment (now : Timestamp) (relation : Relation) (tree : Tree) :
    Except Error (Column × Nat × Value) :=
  match tree.children with
  | named :: literal :: _ => do
    let (column, place) ← relation.column named.lexeme
    let value ← literal.typedValue now column.type
    column.checkNull value
    return (column, place, value)
  | _ => .error (.shape (.tree .assignment))

/-- A row after several changes. -/
def assign (changes : List (Column × Nat × Value)) (row : Row) : Except Error Row :=
  changes.foldlM (fun row (_, place, value) => row.put place value) row

/-- The numbering after several changes. -/
def noteChanges (numbering : Numbering) (changes : List (Column × Nat × Value)) :
    Except Error Numbering :=
  changes.foldlM
    (fun numbering (column, _, value) =>
      if column.autoincrement then numbering.note value else .ok numbering)
    numbering

end Relation

namespace Database

/-- Adds rows to a table. -/
def runInsert (now : Timestamp) (database : Database) (tree : Tree) :
    Except Error (Reply × Database) := do
  let into ← match (tree.find? .into).bind Tree.onlyChild? with
    | some into@⟨.identifier, _, _⟩ => .ok into
    | _ => .error (.shape (.tree (.arguments "insert")))
  let values ← Tree.require (tree.find? .values) (.missing "insert" "VALUES")
  let relation ← database.relation into.lexeme
  let targets ← relation.targets into.children
  let (rows, numbering) ← relation.newRows now targets ⟨relation.sequence, 0⟩ values.children
  let relation ← relation.insertAll rows
  return (.changed numbering.lastId.toInt rows.length,
    database.put { relation with sequence := numbering.sequence })

/-- Changes the rows of a table that meet a condition. -/
def runUpdate (now : Timestamp) (database : Database) (tree : Tree) :
    Except Error (Reply × Database) := do
  let name ← Tree.identifier tree.children.head? "table"
  let set ← Tree.require (tree.find? .assignments) (.missing "update" "SET")
  let relation ← database.relation name
  let predicate ← Predicate.ofClause now relation (tree.find? .whereClause)
  let changes ← set.children.mapM (relation.assignment now)
  let marked ← predicate.mark relation.rows
  let rows ← marked.mapM fun (row, chosen) =>
    if chosen then Relation.assign changes row else .ok row
  let affected := marked.countP (·.2)
  if affected = 0 then return (.changed 0 0, database)
  let numbering ← Relation.noteChanges ⟨relation.sequence, 0⟩ changes
  let relation ← relation.replaceRows rows
  return (.changed 0 affected, database.put { relation with sequence := numbering.sequence })

/-- Removes the rows of a table that meet a condition. -/
def runDelete (now : Timestamp) (database : Database) (tree : Tree) :
    Except Error (Reply × Database) := do
  let source ← Tree.require (tree.find? .fromTable) (.missing "delete" "FROM")
  let relation ← database.relation (← Tree.identifier source.onlyChild? "table")
  let predicate ← Predicate.ofClause now relation (tree.find? .whereClause)
  let marked ← predicate.mark relation.rows
  let kept := (marked.filter (!·.2)).map (·.1)
  return (.changed 0 (marked.countP (·.2)), database.put { relation with rows := kept })

end Database
end SqlEngine
