import SqlEngine.Grammar.Literal

/-!
# Definitions of tables

Tables to make, with their columns, and tables to remove or empty.  The guard IF NOT EXISTS may stand
in front of a target or behind it.
-/

namespace SqlEngine
namespace Grammar

/-- The guard of a target that may exist already. -/
def guard : Scan Tree := do
  let _ ← word "IF"
  let _ ← word "NOT"
  let _ ← word "EXISTS"
  return { token := .ifNotExists, lexeme := "IF NOT EXISTS" }

/-- The length of a type, with an optional number of places that means nothing. -/
def typeLength : Scan Tree :=
  bracketed do
    let length ← spaced digits
    let _ ← optional (sign ',' *> spaced digits)
    return { token := .number, lexeme := length }

/-- The type of a column. -/
def typeName : Scan Tree := do
  let name ← name
  let length ← optional typeLength
  let _ ← optional (word "PRECISION")
  return { token := .typeName, lexeme := name, children := length.toList }

/-- A constraint of a column.  The word NULL alone is none. -/
def constraint : Scan (Option Tree) :=
  (do
    let _ ← word "NOT"
    let _ ← word "NULL"
    return some { token := .notNull, lexeme := "NOT NULL" })
  <|> (do
    let _ ← word "PRIMARY"
    let _ ← word "KEY"
    return some { token := .primaryKey, lexeme := "PRIMARY KEY" })
  <|> (return some (← wordNode .unique "UNIQUE"))
  <|> (return some (← wordNode .autoIncrement "AUTOINCREMENT"))
  <|> (return some (← wordNode .autoIncrement "AUTO_INCREMENT"))
  <|> (do
    let _ ← word "DEFAULT"
    return some { token := .defaultValue, lexeme := "DEFAULT", children := [← literal] })
  <|> (word "NULL" *> pure none)

/-- A column of a new table. -/
def column : Scan Tree := do
  let name ← name
  let type ← typeName
  let constraints ← Scan.many constraint
  return { token := .columnDef, lexeme := name, children := type :: constraints.filterMap id }

/-- A statement that makes a target, with its guard in front of its name. -/
def create (token : Token) (expected : String) (named : Scan Tree) : Scan Tree := do
  let _ ← word "CREATE"
  let lexeme ← word expected
  let before ← optional guard
  let name ← named
  let behind ← optional guard
  return {
    token := .create
    lexeme := "CREATE"
    children := [{ token, lexeme, children := (before <|> behind).toList ++ [name] }] }

/-- A statement that makes a table. -/
def createTable : Scan Tree :=
  create .table "TABLE" do
    let name ← nameNode
    return { name with children := ← bracketed (listed column) }

/-- A statement that acknowledges a database. -/
def createDatabase : Scan Tree :=
  create .database "DATABASE" nameNode

/-- A statement that removes a table, or acknowledges that a database goes. -/
def drop : Scan Tree := do
  let _ ← word "DROP"
  let target ← wordNode .table "TABLE" <|> wordNode .database "DATABASE"
  let name ← nameNode
  return { token := .drop, lexeme := "DROP", children := [{ target with children := [name] }] }

/-- A statement that empties a table. -/
def truncate : Scan Tree := do
  let _ ← word "TRUNCATE"
  let _ ← optional (word "TABLE")
  let name ← nameNode
  return {
    token := .truncate
    lexeme := "TRUNCATE"
    children := [{ token := .table, lexeme := "TABLE", children := [name] }] }

end Grammar
end SqlEngine
