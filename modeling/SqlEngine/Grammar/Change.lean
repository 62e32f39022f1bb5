import SqlEngine.Grammar.Condition

/-!
# Changes to rows

Rows to add, changes to the rows that meet a condition, and rows to remove.
-/

namespace SqlEngine
namespace Grammar

/-- The values of one row. -/
def tuple : Scan Tree := do
  return { token := .tuple, lexeme := "()", children := ← bracketed (listed literal) }

/-- A statement that adds rows. -/
def insert : Scan Tree := do
  let _ ← word "INSERT"
  let intoLexeme ← word "INTO"
  let table ← nameNode
  let columns ← bracketed (listed nameNode) <|> pure []
  let valuesLexeme ← word "VALUES"
  let tuples ← listed tuple
  return {
    token := .insert
    lexeme := "INSERT"
    children := [{ token := .into, lexeme := intoLexeme, children := [{ table with children := columns }] },
      { token := .values, lexeme := valuesLexeme, children := tuples }] }

/-- One change to a row. -/
def assignment : Scan Tree := do
  let column ← nameNode
  sign '='
  let value ← literal
  return { token := .assign, lexeme := "=", children := [column, value] }

/-- A statement that changes rows. -/
def update : Scan Tree := do
  let _ ← word "UPDATE"
  let table ← nameNode
  let setLexeme ← word "SET"
  let changes ← listed assignment
  let filter ← optional whereClause
  return {
    token := .update
    lexeme := "UPDATE"
    children := [table, { token := .assignments, lexeme := setLexeme, children := changes }]
      ++ filter.toList }

/-- A statement that removes rows. -/
def delete : Scan Tree := do
  let _ ← word "DELETE"
  let fromLexeme ← word "FROM"
  let table ← nameNode
  let filter ← optional whereClause
  return {
    token := .delete
    lexeme := "DELETE"
    children := { token := .fromTable, lexeme := fromLexeme, children := [table] } :: filter.toList }

end Grammar
end SqlEngine
