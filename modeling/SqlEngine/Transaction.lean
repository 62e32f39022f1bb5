import SqlEngine.Statement.Script

/-!
# Transactions

A transaction keeps the scripts given to it until they are applied all together.  It reads every script
when it is given, so that none with a fault in its text, and none that queries or controls a
transaction, is kept.
-/

namespace SqlEngine

/-- The level of isolation that a transaction is asked to have. -/
inductive Isolation where
  /-- Whatever the engine offers. -/
  | default
  /-- Reads what others have not committed. -/
  | readUncommitted
  /-- Reads what others have committed. -/
  | readCommitted
  /-- Writes over what others have committed. -/
  | writeCommitted
  /-- Reads the same rows again. -/
  | repeatableRead
  /-- Reads one state of the database. -/
  | snapshot
  /-- Is equivalent to some order one after the other. -/
  | serializable
  /-- Is equivalent to the order in time. -/
  | linearizable
  deriving DecidableEq

/-- The name of a level of isolation. -/
def Isolation.name : Isolation → String
  | default => "Default"
  | readUncommitted => "ReadUncommitted"
  | readCommitted => "ReadCommitted"
  | writeCommitted => "WriteCommitted"
  | repeatableRead => "RepeatableRead"
  | snapshot => "Snapshot"
  | serializable => "Serializable"
  | linearizable => "Linearizable"

/-- All levels of isolation. -/
def Isolation.all : List Isolation :=
  [.default, .readUncommitted, .readCommitted, .writeCommitted, .repeatableRead, .snapshot,
   .serializable, .linearizable]

/-- An open transaction. -/
structure Transaction where
  /-- The scripts to apply, in order. -/
  pending : List String := []
  deriving DecidableEq

namespace Transaction

/-- A transaction without scripts; only what every transaction offers can be asked for. -/
def begin (isolation : Isolation) (readOnly : Bool) : Except Error Transaction :=
  if isolation ≠ .default then .error (.unsupported (.isolation isolation.name))
  else if readOnly then .error (.unsupported .readOnly)
  else .ok {}

/-- Refuses a statement that a transaction cannot keep. -/
def checkStatement (tree : Tree) : Except Error Unit :=
  match tree.token with
  | .select => .error (.unsupported .queuedQuery)
  | .beginTx => .error (.unsupported .nested)
  | .commit => .error (.unsupported .nested)
  | .rollback => .error (.unsupported .nested)
  | _ => .ok ()

/-- The transaction with one more script. -/
def queue (transaction : Transaction) (script : String) : Except Error Transaction := do
  let trees ← Script.parse script
  trees.forM checkStatement
  return ⟨transaction.pending ++ [script]⟩

end Transaction
end SqlEngine
