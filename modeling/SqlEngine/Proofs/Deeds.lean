import SqlEngine.Proofs.Histories

/-!
# Deeds

A deed is a statement that has taken effect.  The deeds of a history are its statements without
those that failed, without those that were not reached, and without those that were taken back, as
they stood in a batch that failed.  They lead from one database to the next, and so up to the one behind the history.
-/

namespace SqlEngine

/-- A statement that has taken effect. -/
structure Deed where
  /-- The time at which it was run. -/
  now : Timestamp
  /-- The statement. -/
  tree : Tree
  /-- The database in front of it. -/
  before : Database
  /-- The answer to it. -/
  reply : Reply
  /-- The database behind it. -/
  after : Database

/-- Whether deeds lead from one database to another, each from the one that those before it have
left behind. -/
inductive Leads : Database → List Deed → Database → Prop where
  /-- No deed leads nowhere. -/
  | nil (database : Database) : Leads database [] database
  /-- A statement succeeds, and the other deeds lead on from there. -/
  | cons {deed : Deed} {deeds : List Deed} {final : Database}
      (done : deed.before.execute deed.now deed.tree = .ok (deed.reply, deed.after))
      (others : Leads deed.after deeds final) : Leads deed.before (deed :: deeds) final

namespace Leads

variable {start final : Database} {front back : List Deed}

theorem append {middle : Database} (first : Leads start front middle)
    (others : Leads middle back final) : Leads start (front ++ back) final := by
  induction first with
  | nil => exact others
  | cons done _ induction => exact .cons done (induction others)

/-- A deed in a course of deeds stands behind those in front of it, and those behind it follow
it. -/
theorem cut {deed : Deed} (leads : Leads start (front ++ deed :: back) final) :
    Leads start front deed.before ∧
      deed.before.execute deed.now deed.tree = .ok (deed.reply, deed.after) ∧
      Leads deed.after back final := by
  induction front generalizing start with
  | nil =>
      cases leads with
      | cons done others => exact ⟨.nil deed.before, done, others⟩
  | cons first front induction =>
      cases leads with
      | cons done others =>
          obtain ⟨before, this, behind⟩ := induction others
          exact ⟨.cons done before, this, behind⟩

theorem sound {deeds : List Deed} (leads : Leads start deeds final) (first : start.Sound) :
    final.Sound := by
  induction leads with
  | nil => exact first
  | cons done _ induction => exact induction (first.execute done)

end Leads

namespace Database

/-- The deeds among statements that are run up to the first that fails. -/
def deedsOfTrees (now : Timestamp) (database : Database) : List Tree → List Deed
  | [] => []
  | tree :: trees =>
    match database.execute now tree with
    | .error _ => []
    | .ok (reply, after) => ⟨now, tree, database, reply, after⟩ :: after.deedsOfTrees now trees

/-- The deeds among the statements of a script. -/
def deedsOfScript (now : Timestamp) (database : Database) (script : String) : List Deed :=
  match Script.parse script with
  | .error _ => []
  | .ok trees => database.deedsOfTrees now trees

/-- The deeds among the statements of scripts that are run up to the first that fails. -/
def deedsOfEach (now : Timestamp) (database : Database) : List String → List Deed
  | [] => []
  | script :: scripts =>
    database.deedsOfScript now script ++
      match (database.run now script).failure with
      | some _ => []
      | none => (database.run now script).database.deedsOfEach now scripts

/-- The deeds of a call.  A batch that fails has none, unless it is cut short. -/
def deedsOfCall (now : Timestamp) (database : Database) : Call → List Deed
  | .script text => database.deedsOfScript now text
  | .batch texts =>
    match (database.runEach now texts).failure with
    | some error => if error.isCrash then database.deedsOfEach now texts else []
    | none => database.deedsOfEach now texts
  | .statement tree => database.deedsOfTrees now [tree]

/-- The deeds of a history. -/
def deeds (database : Database) : List (Timestamp × Call) → List Deed
  | [] => []
  | (now, call) :: history =>
    database.deedsOfCall now call ++ (database.call now call).deeds history

variable {now : Timestamp}

theorem leads_deedsOfTrees (database : Database) (trees : List Tree) :
    Leads database (database.deedsOfTrees now trees) (database.runAll now trees).database := by
  induction trees generalizing database with
  | nil => exact .nil database
  | cons tree trees induction =>
      simp only [deedsOfTrees, runAll]
      cases executed : database.execute now tree with
      | error error => exact .nil database
      | ok result =>
          let deed : Deed := ⟨now, tree, database, result.1, result.2⟩
          exact @Leads.cons deed _ _ executed (induction result.2)

theorem leads_deedsOfScript (database : Database) (script : String) :
    Leads database (database.deedsOfScript now script) (database.run now script).database := by
  unfold deedsOfScript run
  cases Script.parse script with
  | error error => exact .nil database
  | ok trees => exact leads_deedsOfTrees database trees

theorem leads_deedsOfEach (database : Database) (scripts : List String) :
    Leads database (database.deedsOfEach now scripts)
      (database.runEach now scripts).database := by
  induction scripts generalizing database with
  | nil => exact .nil database
  | cons script scripts induction =>
      simp only [deedsOfEach, runEach]
      refine (leads_deedsOfScript database script).append ?_
      cases failed : (database.run now script).failure with
      | some error => exact .nil _
      | none => exact induction _

theorem leads_deedsOfCall (database : Database) (call : Call) :
    Leads database (database.deedsOfCall now call) (database.call now call) := by
  cases call with
  | script text => exact leads_deedsOfScript database text
  | batch texts =>
      simp only [deedsOfCall, Database.call, runBatch]
      cases (database.runEach now texts).failure with
      | some error =>
          dsimp only
          split
          · exact leads_deedsOfEach database texts
          · exact .nil database
      | none => exact leads_deedsOfEach database texts
  | statement tree =>
      have leads : Leads database (database.deedsOfTrees now [tree])
          (database.runAll now [tree]).database := leads_deedsOfTrees database [tree]
      simp only [runAll] at leads
      simp only [deedsOfCall, Database.call]
      cases executed : database.execute now tree with
      | error error => simpa [executed] using leads
      | ok result => simpa [executed, Outcome.after] using leads

/-- The deeds of a history lead to the database behind it. -/
theorem leads_deeds (database : Database) (history : List (Timestamp × Call)) :
    Leads database (database.deeds history) (database.calls history) := by
  induction history generalizing database with
  | nil => exact .nil database
  | cons first others induction =>
      exact (leads_deedsOfCall database first.2).append (induction (database.call first.1 first.2))

end Database
end SqlEngine
