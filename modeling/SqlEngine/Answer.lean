import SqlEngine.Reply

/-!
# Answers

What a session makes of the messages that come back on a request: the outcome of the last change, or
the last rows.  The first error among the messages is the answer; no message at all means that the
engine has stopped before it came to the request.
-/

namespace SqlEngine

/-- The outcome of a change. -/
structure ChangeResult where
  /-- The last number given to a row, or zero. -/
  lastId : Int := 0
  /-- The number of rows concerned. -/
  affected : Int := 0
  deriving DecidableEq

/-- The rows of a query. -/
structure RowSet where
  /-- The names of the columns. -/
  columns : List String := []
  /-- The rows, in order; a null has no text. -/
  rows : List (List (Option String)) := []
  deriving DecidableEq

namespace RowSet

/-- The text in a row under the first column of a name. -/
def cell? (set : RowSet) (row : Nat) (column : String) : Option String := do
  let place ← set.columns.findIdx? (· == column)
  let cells ← set.rows[row]?
  (← cells[place]?)

end RowSet

namespace ChangeResult

/-- The last outcome among messages, or one found before them. -/
def collect (last : ChangeResult) : List Message → Except Error ChangeResult
  | [] => .ok last
  | .result lastId affected :: messages => collect ⟨lastId, affected⟩ messages
  | .failure text :: _ => .error (.ofRemote text)
  | _ :: messages => collect last messages

/-- The outcome that messages tell. -/
def ofMessages (messages : List Message) : Except Error ChangeResult :=
  if messages.isEmpty then .error .engineStopped else collect {} messages

end ChangeResult

namespace RowSet

/-- The last complete rows among messages, or those found before them, given the rows under way. -/
def collect (current last : RowSet) : List Message → Except Error RowSet
  | [] => .ok last
  | .header names :: messages => collect ⟨names, []⟩ last messages
  | .row cells :: messages => collect { current with rows := current.rows ++ [cells] } last messages
  | .rowEnd :: messages => collect {} current messages
  | .failure text :: _ => .error (.ofRemote text)
  | .result _ _ :: messages => collect current last messages

/-- The rows that messages tell. -/
def ofMessages (messages : List Message) : Except Error RowSet :=
  if messages.isEmpty then .error .engineStopped else collect {} {} messages

end RowSet
end SqlEngine
