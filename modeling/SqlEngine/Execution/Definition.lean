import SqlEngine.Database
import SqlEngine.Execution.Literal
import SqlEngine.Reply

/-!
# Making, removing and emptying tables

There is one set of tables; statements about databases are acknowledged and change nothing.
-/

namespace SqlEngine
namespace Column

/-- A column with one more constraint. -/
def constrain (now : Timestamp) (column : Column) (tree : Tree) : Except Error Column :=
  match tree.token with
  | .notNull => .ok { column with notNull := true }
  | .primaryKey => .ok { column with primaryKey := true }
  | .unique => .ok { column with unique := true }
  | .autoIncrement => .ok { column with autoincrement := true }
  | .defaultValue => do
    let literal ← Tree.require tree.onlyChild? .noDefaultValue
    return { column with default := some (← literal.typedValue now column.type) }
  | other => .error (.shape (.tree (.constraint other)))

/-- The type that a node names, with the length below it. -/
def typeOfTree (tree : Tree) : Except Error ColumnType :=
  match tree.children with
  | [] => ColumnType.ofName tree.lexeme none
  | length :: _ =>
    match Numeral.unsigned? length.lexeme.toList with
    | some number => ColumnType.ofName tree.lexeme (some number)
    | none => .error (.parse (.typeLength length.lexeme))

/-- Refuses a column that numbers its rows and is not an integer. -/
def checkNumbering (column : Column) : Except Error Unit :=
  if column.autoincrement && column.type != .integer && column.type != .serial then
    .error (.shape (.notInteger column.name))
  else .ok ()

/-- The column that a node defines. -/
def ofTree (now : Timestamp) (tree : Tree) : Except Error Column := do
  if tree.token ≠ .columnDef then .error (.shape (.tree .notColumn))
  match tree.children with
  | type@⟨.typeName, _, _⟩ :: constraints =>
    let column := ofType tree.lexeme (← typeOfTree type)
    let column ← constraints.foldlM (constrain now) column
    checkNumbering column
    return column
  | _ => .error (.shape (.tree (.noType tree.lexeme)))

/-- The columns that nodes define, which must have names not seen before. -/
def listOfTrees (now : Timestamp) (seen : List String) : List Tree → Except Error (List Column)
  | [] => .ok []
  | tree :: trees => do
    let column ← ofTree now tree
    if seen.contains column.name then .error (.shape (.duplicateColumn column.name))
    return column :: (← listOfTrees now (column.name :: seen) trees)

end Column

namespace Database

/-- Makes a table, unless there is one of its name. -/
def createTable (now : Timestamp) (database : Database) (target : Tree) :
    Except Error (Reply × Database) := do
  let named ← Tree.require (target.find? .identifier) (.noName "table")
  if database.contains named.lexeme then
    if target.has .ifNotExists then return (.changed 0 0, database)
    .error (.alreadyExists named.lexeme)
  if named.children.isEmpty then .error (.shape (.tree (.noColumns named.lexeme)))
  let columns ← Column.listOfTrees now [] named.children
  return (.changed 0 1, ← database.create { name := named.lexeme, columns })

/-- Makes a table or acknowledges a database. -/
def runCreate (now : Timestamp) (database : Database) (tree : Tree) :
    Except Error (Reply × Database) := do
  let target ← Tree.require tree.onlyChild? (.arguments "create")
  match target.token with
  | .database =>
    let _ ← Tree.identifier (target.find? .identifier) "database"
    return (.changed 0 1, database)
  | .table => database.createTable now target
  | _ => .error (.shape (.tree (.arguments "create")))

/-- Removes a table, or acknowledges that a database goes. -/
def runDrop (database : Database) (tree : Tree) : Except Error (Reply × Database) :=
  match tree.onlyChild? with
  | some ⟨.database, _, [_]⟩ => .ok (.changed 0 1, database)
  | some ⟨.table, _, [named]⟩ => do
    let (_, rest) ← database.drop named.lexeme
    return (.changed 0 1, rest)
  | _ => .error (.shape (.tree (.arguments "drop")))

/-- Removes all rows of a table. -/
def runTruncate (database : Database) (tree : Tree) : Except Error (Reply × Database) :=
  match tree.onlyChild? with
  | some target@⟨.table, _, _⟩ => do
    let relation ← database.relation (← Tree.identifier target.onlyChild? "table")
    return (.changed 0 relation.rows.length, database.put { relation with rows := [] })
  | _ => .error (.shape (.tree (.arguments "truncate")))

end Database
end SqlEngine
