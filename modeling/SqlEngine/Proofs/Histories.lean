import SqlEngine.Execution.Run
import SqlEngine.Proofs.Changes
import SqlEngine.Proofs.Definitions

/-!
# Histories

A database has a history: it started without tables and has answered one call after the other, each
at some time.  Whatever the calls were, and whether they succeeded or failed, it conforms.
-/

namespace SqlEngine
namespace Database

variable {now : Timestamp} {database after : Database} {tree : Tree} {reply : Reply}

/-- A statement leaves a conforming database behind. -/
theorem Sound.execute (sound : database.Sound)
    (done : database.execute now tree = .ok (reply, after)) : after.Sound := by
  unfold Database.execute at done
  split at done
  · exact sound.runCreate done
  · exact sound.runDrop done
  · exact sound.runTruncate done
  · exact sound.runInsert done
  · exact sound.runUpdate done
  · exact sound.runDelete done
  · simp only [Checked.bind_eq_ok, Checked.pure_eq_ok, Prod.mk.injEq] at done
    obtain ⟨_, -, -, rfl⟩ := done
    exact sound
  all_goals contradiction

theorem Sound.runAll (sound : database.Sound) (trees : List Tree) :
    (database.runAll now trees).database.Sound := by
  induction trees generalizing database with
  | nil => exact sound
  | cons tree trees induction =>
      unfold Database.runAll
      split
      · exact sound
      · exact induction (sound.execute ‹_›)

theorem Sound.run (sound : database.Sound) (script : String) :
    (database.run now script).database.Sound := by
  unfold Database.run
  split
  · exact sound
  · exact sound.runAll _

theorem Sound.runEach (sound : database.Sound) (scripts : List String) :
    (database.runEach now scripts).database.Sound := by
  induction scripts generalizing database with
  | nil => exact sound
  | cons script scripts induction =>
      simp only [Database.runEach]
      split
      · exact sound.run script
      · exact induction (sound.run script)

theorem Sound.runBatch (sound : database.Sound) (scripts : List String) :
    (database.runBatch now scripts).database.Sound := by
  simp only [Database.runBatch]
  split
  · split
    · exact sound.runEach scripts
    · exact sound
  · exact sound.runEach scripts

end Database

/-- A call that a database answers. -/
inductive Call where
  /-- Runs a script. -/
  | script (text : String)
  /-- Runs scripts as one. -/
  | batch (texts : List String)
  /-- Runs a statement, which may be a tree that no text stands for. -/
  | statement (tree : Tree)

namespace Database

/-- The database behind a call.  A statement that fails leaves it as it was. -/
def call (now : Timestamp) (database : Database) : Call → Database
  | .script text => (database.run now text).database
  | .batch texts => (database.runBatch now texts).database
  | .statement tree =>
    match database.execute now tree with
    | .ok (_, database) => database
    | .error _ => database

/-- The database behind several calls. -/
def calls (database : Database) (history : List (Timestamp × Call)) : Database :=
  history.foldl (fun database (now, call) => database.call now call) database

theorem Sound.call {database : Database} (sound : database.Sound) (now : Timestamp) (call : Call) :
    (database.call now call).Sound := by
  cases call with
  | script text => exact sound.run text
  | batch texts => exact sound.runBatch texts
  | statement tree =>
      simp only [Database.call]
      split
      · exact sound.execute ‹_›
      · exact sound

theorem Sound.calls {database : Database} (sound : database.Sound)
    (history : List (Timestamp × Call)) : (database.calls history).Sound := by
  induction history generalizing database with
  | nil => exact sound
  | cons first others induction => exact induction (sound.call first.1 first.2)

/-- Behind every history the database conforms: each table stands under its own name and keeps its
schema, so that no text in it is longer than its column allows and no real in it is a NaN. -/
theorem conforms_after_calls (history : List (Timestamp × Call)) :
    (empty.calls history).Sound ∧
      ∀ (name : String) (relation : Relation), (empty.calls history).find? name = some relation →
        ∀ row ∈ relation.rows, row.length = relation.columns.length ∧
          ∀ (column : Column) (place : Nat) (value : Value),
            relation.columns[place]? = some column → row[place]? = some value →
            column.type.coerce value = .ok value ∧ value ≠ .real .nan ∧
              ((column.notNull = true ∨ column.primaryKey = true) → value ≠ .null) ∧
              ∀ limit content, column.type = .varchar limit → value = .text content →
                content.length ≤ limit := by
  have sound : (empty.calls history).Sound := sound_empty.calls history
  refine ⟨sound, fun name relation found row member => ?_⟩
  have fits := (sound name relation found).2.rows_fit row member
  refine ⟨fits.length_eq, fun column place value here there => ?_⟩
  obtain ⟨held, filled⟩ := fits.admits here there
  refine ⟨held.1, held.2, fun marked => filled (by simpa [Column.isNotNull] using marked), ?_⟩
  rintro limit content typed rfl
  rw [typed] at held
  exact ColumnType.length_le_of_holds held

end Database
end SqlEngine
