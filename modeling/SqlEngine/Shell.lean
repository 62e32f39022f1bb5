import SqlEngine.BoxTable
import SqlEngine.Registry

/-!
# The shell

The shell gives the lines that it reads to one session.  Between BEGIN and COMMIT it keeps lines in a
transaction instead; queries go to the engine even then, and see nothing of what is kept.
-/

namespace SqlEngine
namespace Shell

/-- What a line asks for. -/
inductive Action where
  /-- To open a transaction. -/
  | opening
  /-- To apply the transaction. -/
  | commit
  /-- To give up the transaction. -/
  | rollback
  /-- To show rows. -/
  | query
  /-- To run statements. -/
  | exec
  /-- Nothing that can be told: its reading breaks. -/
  | crash
  deriving DecidableEq

/-- What statements ask for. -/
def Action.ofTrees (trees : List Tree) : Action :=
  match trees.map Tree.token with
  | [.beginTx] => opening
  | [.commit] => commit
  | [.rollback] => rollback
  | tokens => if tokens.getLast? = some .select then query else exec

/-- What a line asks for.  One that cannot be read is left to the engine to refuse, unless it breaks the
reading here already. -/
def classify (line : String) : Action :=
  match Script.parse line with
  | .ok trees => .ofTrees trees
  | .error error => if error.isCrash then .crash else .exec

/-- Rows as the shell shows them. -/
def render (set : RowSet) : String :=
  if set.rows.isEmpty then "(0 rows)"
  else
    let rows := set.rows.map fun row => row.map (·.getD "NULL")
    BoxTable.draw set.columns rows ++ s!"\n({set.rows.length} rows)"

/-- What the shell says of a change. -/
def changeText (result : ChangeResult) : String :=
  s!"OK, {result.affected} rows affected, last insert id {result.lastId}"

/-- A shell: all engines, its session, and its transaction if one is open. -/
structure State where
  /-- The engines. -/
  registry : Registry
  /-- The session of the shell. -/
  session : Session
  /-- The open transaction. -/
  transaction : Option Transaction := none

/-- Gives a query to the engine. -/
def query (occasion : Occasion) (state : State) (line : String) : Except Error String × State :=
  let (rows, registry) := state.registry.query occasion state.session line
  (rows.map render, { state with registry })

/-- Gives statements to the engine. -/
def exec (occasion : Occasion) (state : State) (line : String) : Except Error String × State :=
  let (result, registry) := state.registry.exec occasion state.session line
  (result.map changeText, { state with registry })

/-- Keeps a line in a transaction. -/
def queue (state : State) (transaction : Transaction) (line : String) :
    Except Error String × State :=
  match transaction.queue line with
  | .error error => (.error error, state)
  | .ok transaction =>
    (.ok s!"queued ({transaction.pending.length} pending)",
      { state with transaction := some transaction })

/-- Applies a transaction, which is over then in any case. -/
def commit (occasion : Occasion) (state : State) (transaction : Transaction) :
    Except Error String × State :=
  let (result, registry) := state.registry.commit occasion state.session transaction
  (result.map fun result => s!"COMMIT ({result.affected} rows affected)",
    { state with registry, transaction := none })

/-- Does what a line asks for, and says what came of it. -/
def run (occasion : Occasion) (state : State) (line : String) : Except Error String × State :=
  match classify line, state.transaction with
  | .opening, some _ => (.ok "transaction already open", state)
  | .opening, none => (.ok "BEGIN", { state with transaction := some {} })
  | .commit, some transaction => commit occasion state transaction
  | .commit, none => (.ok "no transaction open", state)
  | .rollback, some _ => (.ok "ROLLBACK", { state with transaction := none })
  | .rollback, none => (.ok "no transaction open", state)
  | .query, _ => query occasion state line
  | .exec, some transaction => queue state transaction line
  | .exec, none => exec occasion state line
  | .crash, _ => (.error .broken, state)

end Shell
end SqlEngine
