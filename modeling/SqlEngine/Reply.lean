import SqlEngine.Error

/-!
# Replies

A statement that succeeds has one reply: the outcome of a change, or the rows of a query.  Replies and
errors travel as messages; the rows of a query are a header, one message for each row, and an end.
-/

namespace SqlEngine

/-- What a statement answers. -/
inductive Reply where
  /-- A change, with the last number given to a row, or zero, and the number of rows concerned. -/
  | changed (lastId affected : Int)
  /-- Rows under the names of their columns; a null has no text. -/
  | rows (header : List String) (cells : List (List (Option String)))
  deriving DecidableEq

/-- A piece of an answer on its way to a session. -/
inductive Message where
  /-- The outcome of a change. -/
  | result (lastId affected : Int)
  /-- An error, in words. -/
  | failure (text : String)
  /-- The names of the columns of the rows that follow. -/
  | header (names : List String)
  /-- A row. -/
  | row (cells : List (Option String))
  /-- The end of the rows. -/
  | rowEnd
  deriving DecidableEq

/-- The messages of a reply. -/
def Reply.messages : Reply → List Message
  | changed lastId affected => [.result lastId affected]
  | rows header cells => .header header :: cells.map .row ++ [.rowEnd]

/-- The message of an error. -/
def Error.toMessage (error : Error) : Message :=
  .failure error.message

end SqlEngine
