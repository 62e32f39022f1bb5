import SqlEngine.Grammar.Literal

/-!
# Conditions

A condition is one or more groups joined by OR; a group is one or more terms joined by AND; a term
is one test of one column.  Groups and terms are listed side by side, so that a tree does not grow
deeper with the length of its condition.
-/

namespace SqlEngine
namespace Grammar

/-- The signs of comparisons, the longer ones first. -/
def comparisons : List (String × Token) :=
  [(">=", .greaterOrEqual), ("<=", .lessOrEqual), ("!=", .notEqual), ("<>", .notEqual),
   ("=", .equal), (">", .greater), ("<", .less)]

/-- The first sign of a list that stands next. -/
def oneOf : List (String × Token) → Scan (String × Token)
  | [] => failure
  | (text, token) :: others => (Scan.exactly text *> pure (text, token)) <|> oneOf others

/-- A test that a column has a value. -/
def isNotNull : Scan Tree := do
  let column ← nameNode
  let _ ← word "IS"
  let _ ← word "NOT"
  let _ ← word "NULL"
  return { token := .isNotNull, lexeme := "IS NOT NULL", children := [column] }

/-- A test that a column has no value. -/
def isNull : Scan Tree := do
  let column ← nameNode
  let _ ← word "IS"
  let _ ← word "NULL"
  return { token := .isNull, lexeme := "IS NULL", children := [column] }

/-- A test that the value of a column is in a list. -/
def inList : Scan Tree := do
  let column ← nameNode
  let lexeme ← word "IN"
  let values ← bracketed (listed literal)
  return { token := .inList, lexeme, children := column :: values }

/-- A test that the text of a column matches a pattern. -/
def like : Scan Tree := do
  let column ← nameNode
  let lexeme ← word "LIKE"
  let pattern ← literal
  return { token := .like, lexeme, children := [column, pattern] }

/-- A comparison of a column with a value. -/
def comparison : Scan Tree := do
  let column ← nameNode
  let (lexeme, token) ← spaced (oneOf comparisons)
  let value ← literal
  return { token, lexeme, children := [column, value] }

/-- One test. -/
def term : Scan Tree :=
  isNotNull <|> isNull <|> inList <|> like <|> comparison

/-- One condition for several: the only one of a list, or a node above them. -/
def joined (token : Token) (lexeme : String) : List Tree → Tree
  | [only] => only
  | children => { token, lexeme, children }

/-- Terms joined by AND. -/
def group : Scan Tree := do
  return joined .allOf "AND" (← Scan.sepBy1 (word "AND") term)

/-- Groups joined by OR. -/
def condition : Scan Tree := do
  return joined .anyOf "OR" (← Scan.sepBy1 (word "OR") group)

/-- The condition on rows. -/
def whereClause : Scan Tree := do
  let lexeme ← word "WHERE"
  return { token := .whereClause, lexeme, children := [← condition] }

end Grammar
end SqlEngine
