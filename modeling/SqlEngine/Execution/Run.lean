import SqlEngine.Execution.Change
import SqlEngine.Execution.Definition
import SqlEngine.Execution.Query
import SqlEngine.Statement.Script

/-!
# Running statements

A script runs its statements in order up to the first that fails.  A batch is a list of scripts that
take effect all together or not at all, and has one outcome.  Where the reading of a script breaks, the
run is cut short: nothing tells of it, and nothing takes back what a batch has done by then.

The clock is read once for each request, and all of its statements are run at that time.  This leaves
out the runs in which it goes on between two nodes that ask for the current time.
-/

namespace SqlEngine
namespace Database

/-- Runs one statement at a given time. -/
def execute (now : Timestamp) (database : Database) (tree : Tree) :
    Except Error (Reply × Database) :=
  match tree.token with
  | .create => database.runCreate now tree
  | .drop => database.runDrop tree
  | .truncate => database.runTruncate tree
  | .insert => database.runInsert now tree
  | .update => database.runUpdate now tree
  | .delete => database.runDelete now tree
  | .select => return (← database.runSelect now tree, database)
  | .beginTx => .error (.unimplemented (Text.upperCase tree.lexeme ++ " statement"))
  | .commit => .error (.unimplemented (Text.upperCase tree.lexeme ++ " statement"))
  | .rollback => .error (.unimplemented (Text.upperCase tree.lexeme ++ " statement"))
  | other => .error (.shape (.tree (.statement other)))

end Database

/-- What came of several statements. -/
structure Outcome where
  /-- The replies of the statements that succeeded. -/
  replies : List Reply
  /-- The error of the statement that failed, if one did. -/
  failure : Option Error
  /-- The database behind them. -/
  database : Database

namespace Outcome

/-- Whether the run was cut short. -/
def crashes (outcome : Outcome) : Bool :=
  outcome.failure.any Error.isCrash

/-- The error that is told. -/
def reported (outcome : Outcome) : Option Error :=
  outcome.failure.filter fun error => !error.isCrash

/-- The messages of an outcome. -/
def messages (outcome : Outcome) : List Message :=
  outcome.replies.flatMap Reply.messages ++ (outcome.reported.map Error.toMessage).toList

/-- The same outcome with more replies in front. -/
def after (replies : List Reply) (outcome : Outcome) : Outcome :=
  { outcome with replies := replies ++ outcome.replies }

end Outcome

namespace Database

/-- Runs statements up to the first that fails. -/
def runAll (now : Timestamp) (database : Database) : List Tree → Outcome
  | [] => ⟨[], none, database⟩
  | tree :: trees =>
    match database.execute now tree with
    | .error error => ⟨[], some error, database⟩
    | .ok (reply, database) => (database.runAll now trees).after [reply]

/-- Runs a script. -/
def run (now : Timestamp) (database : Database) (script : String) : Outcome :=
  match Script.parse script with
  | .error error => ⟨[], some error, database⟩
  | .ok trees => database.runAll now trees

/-- Runs scripts up to the first that fails. -/
def runEach (now : Timestamp) (database : Database) : List String → Outcome
  | [] => ⟨[], none, database⟩
  | script :: scripts =>
    let outcome := database.run now script
    match outcome.failure with
    | some _ => outcome
    | none => (outcome.database.runEach now scripts).after outcome.replies

end Database

namespace Reply

/-- The last number given to a row by several statements, or zero. -/
def lastId (replies : List Reply) : Int :=
  replies.foldl
    (fun last reply =>
      match reply with
      | changed id _ => if id = 0 then last else id
      | rows _ _ => last)
    0

/-- The number of rows that several statements changed. -/
def affected (replies : List Reply) : Int :=
  replies.foldr
    (fun reply total =>
      match reply with
      | changed _ affected => affected + total
      | rows _ _ => total)
    0

end Reply

/-- Runs scripts as one: all take effect, or none does.  The copy that is put back then is gone if the
run is cut short. -/
def Database.runBatch (now : Timestamp) (database : Database) (scripts : List String) : Outcome :=
  let outcome := database.runEach now scripts
  match outcome.failure with
  | some error => ⟨[], some error, if error.isCrash then outcome.database else database⟩
  | none =>
    ⟨[.changed (Reply.lastId outcome.replies) (Reply.affected outcome.replies)], none,
      outcome.database⟩

end SqlEngine
