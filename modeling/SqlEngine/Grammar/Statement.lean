import SqlEngine.Grammar.Change
import SqlEngine.Grammar.Definition
import SqlEngine.Grammar.Query

/-!
# Statements

Every statement of the language, those that control transactions included.
-/

namespace SqlEngine
namespace Grammar

/-- A word with an optional TRANSACTION behind it. -/
def control (token : Token) (expected : String) : Scan Tree := do
  let node ← wordNode token expected
  let _ ← optional (word "TRANSACTION")
  return node

/-- A statement that opens a transaction. -/
def begin : Scan Tree :=
  control .beginTx "BEGIN" <|> (do
    let node ← wordNode .beginTx "START"
    let _ ← word "TRANSACTION"
    return node)

/-- A statement. -/
def statement : Scan Tree :=
  createTable <|> createDatabase <|> drop <|> truncate <|> insert <|> select <|> update <|> delete
    <|> begin <|> control .commit "COMMIT" <|> control .rollback "ROLLBACK"

end Grammar
end SqlEngine
