import SqlEngine.Grammar.Condition

/-!
# Queries

What to show, of which table, on which condition, in which order, and how many rows of it.
-/

namespace SqlEngine
namespace Grammar

/-- All columns, the number of rows, or columns by name. -/
def projected : Scan (List Tree) :=
  (sign '*' *> pure [{ token := .star, lexeme := "*" }])
    <|> (do
      let lexeme ← word "COUNT"
      bracketed (sign '*')
      return [{ token := .count, lexeme }])
    <|> listed nameNode

/-- A direction of an order. -/
def direction : Scan Tree :=
  wordNode .asc "ASC" <|> wordNode .desc "DESC" <|> pure { token := .asc, lexeme := "ASC" }

/-- The column that rows are ordered by. -/
def order : Scan Tree := do
  let lexeme ← word "ORDER"
  let _ ← word "BY"
  let column ← nameNode
  let direction ← direction
  return { token := .order, lexeme, children := [{ column with children := [direction] }] }

/-- A number of rows behind a word. -/
def rowCount (token : Token) (expected : String) : Scan Tree := do
  let lexeme ← word expected
  let count ← spaced digits
  return { token, lexeme, children := [{ token := .number, lexeme := count }] }

/-- A query. -/
def select : Scan Tree := do
  let _ ← word "SELECT"
  let columns ← projected
  let fromLexeme ← word "FROM"
  let table ← nameNode
  let filter ← optional whereClause
  let order ← optional order
  let limit ← optional (rowCount .limit "LIMIT")
  let offset ← optional (rowCount .offset "OFFSET")
  return {
    token := .select
    lexeme := "SELECT"
    children := [{ token := .projection, lexeme := "", children := columns },
      { token := .fromTable, lexeme := fromLexeme, children := [table] }]
      ++ filter.toList ++ order.toList ++ limit.toList ++ offset.toList }

end Grammar
end SqlEngine
