import SqlEngine.Proofs.Histories
import SqlEngine.Proofs.Places

/-!
# Statements as they are carried out

A statement changes its table in place, part by part, and writes its answer message by message;
where it stops with an error, everything up to there is done.  Carried out like this on a conforming
database, it comes to the same as the function that gives a reply and a new database: it stops only
while nothing is done yet.
-/

namespace SqlEngine

/-- A database, and the messages that have been written to a session. -/
structure Desk where
  /-- The database. -/
  database : Database
  /-- The messages, in order. -/
  written : List Message

/-- Work at a desk.  Where it stops with an error, the desk stays as it has become. -/
abbrev Work := EStateM Error Desk

namespace Work

variable {α : Type}

/-- The value of a computation that does nothing to the desk. -/
def check (outcome : Except Error α) : Work α :=
  match outcome with
  | .ok value => pure value
  | .error error => throw error

/-- Writes a message. -/
def write (message : Message) : Work Unit :=
  modify fun desk => { desk with written := desk.written ++ [message] }

/-- Looks up the table of a name. -/
def relation (name : String) : Work Relation := do
  check ((← get).database.relation name)

/-- Changes the table of a name in place. -/
def alter (name : String) (change : Relation → Relation) : Work Unit :=
  modify fun desk => { desk with database := ⟨desk.database.relations.modify name change⟩ }

/-- Puts more rows behind those of a table, if they may stand there. -/
def insertAll (name : String) (rows : List Row) : Work Unit := do
  let relation ← relation name
  if rows.any (·.length != relation.columns.length) then throw .columnCountMismatch
  check (relation.checkUnique (relation.rows ++ rows))
  alter name fun relation => { relation with rows := relation.rows ++ rows }

/-- Puts other rows in place of those of a table, if they may stand there. -/
def replaceRows (name : String) (rows : List Row) : Work Unit := do
  let relation ← relation name
  check (relation.checkUnique rows)
  alter name fun relation => { relation with rows }

/-- Sets the number of the next row of a table. -/
def setSequence (name : String) (sequence : Int64) : Work Unit :=
  alter name fun relation => { relation with sequence }

/-- Adds a table, if there is none of its name. -/
def addRelation (relation : Relation) : Work Unit := do
  if (← get).database.contains relation.name then throw (.alreadyExists relation.name)
  modify fun desk =>
    { desk with database := ⟨desk.database.relations.insert relation.name relation⟩ }

/-- Takes a table away, if there is one of its name. -/
def dropRelation (name : String) : Work Unit := do
  let _ ← relation name
  modify fun desk => { desk with database := ⟨desk.database.relations.erase name⟩ }

/-! ## The statements -/

/-- Carries out the making of a table. -/
def createTable (now : Timestamp) (target : Tree) : Work Unit := do
  let named ← check (Tree.require (target.find? .identifier) (.noName "table"))
  if (← get).database.contains named.lexeme then
    if target.has .ifNotExists then write (.result 0 0) else throw (.alreadyExists named.lexeme)
  else
    if named.children.isEmpty then throw (.shape (.tree (.noColumns named.lexeme)))
    let columns ← check (Column.listOfTrees now [] named.children)
    addRelation { name := named.lexeme, columns }
    write (.result 0 1)

/-- Carries out a statement that makes a table or acknowledges a database. -/
def create (now : Timestamp) (tree : Tree) : Work Unit := do
  let target ← check (Tree.require tree.onlyChild? (.arguments "create"))
  match target.token with
  | .database =>
    let _ ← check (Tree.identifier (target.find? .identifier) "database")
    write (.result 0 1)
  | .table => createTable now target
  | _ => throw (.shape (.tree (.arguments "create")))

/-- Carries out a statement that removes a table. -/
def drop (tree : Tree) : Work Unit :=
  match tree.onlyChild? with
  | some ⟨.database, _, [_]⟩ => write (.result 0 1)
  | some ⟨.table, _, [named]⟩ => do
    dropRelation named.lexeme
    write (.result 0 1)
  | _ => throw (.shape (.tree (.arguments "drop")))

/-- Carries out a statement that empties a table. -/
def truncate (tree : Tree) : Work Unit :=
  match tree.onlyChild? with
  | some target@⟨.table, _, _⟩ => do
    let name ← check (Tree.identifier target.onlyChild? "table")
    let relation ← relation name
    alter name fun relation => { relation with rows := [] }
    write (.result 0 relation.rows.length)
  | _ => throw (.shape (.tree (.arguments "truncate")))

/-- Carries out a statement that adds rows. -/
def insert (now : Timestamp) (tree : Tree) : Work Unit := do
  let into ← match (tree.find? .into).bind Tree.onlyChild? with
    | some into@⟨.identifier, _, _⟩ => pure into
    | _ => throw (.shape (.tree (.arguments "insert")))
  let values ← check (Tree.require (tree.find? .values) (.missing "insert" "VALUES"))
  let relation ← relation into.lexeme
  let targets ← check (relation.targets into.children)
  let (rows, numbering) ← check
    (relation.newRows now targets ⟨relation.sequence, 0⟩ values.children)
  insertAll into.lexeme rows
  setSequence into.lexeme numbering.sequence
  write (.result numbering.lastId.toInt rows.length)

/-- Carries out a statement that changes rows. -/
def update (now : Timestamp) (tree : Tree) : Work Unit := do
  let name ← check (Tree.identifier tree.children.head? "table")
  let set ← check (Tree.require (tree.find? .assignments) (.missing "update" "SET"))
  let relation ← relation name
  let predicate ← check (Predicate.ofClause now relation (tree.find? .whereClause))
  let changes ← check (set.children.mapM (relation.assignment now))
  let marked ← check (predicate.mark relation.rows)
  let rows ← check (marked.mapM fun (row, chosen) =>
    if chosen then Relation.assign changes row else .ok row)
  let affected := marked.countP (·.2)
  if affected ≠ 0 then
    let numbering ← check (Relation.noteChanges ⟨relation.sequence, 0⟩ changes)
    replaceRows name rows
    setSequence name numbering.sequence
  write (.result 0 affected)

/-- Carries out a statement that removes rows. -/
def delete (now : Timestamp) (tree : Tree) : Work Unit := do
  let source ← check (Tree.require (tree.find? .fromTable) (.missing "delete" "FROM"))
  let name ← check (Tree.identifier source.onlyChild? "table")
  let relation ← relation name
  let predicate ← check (Predicate.ofClause now relation (tree.find? .whereClause))
  let marked ← check (predicate.mark relation.rows)
  alter name fun relation => { relation with rows := (marked.filter (!·.2)).map (·.1) }
  write (.result 0 (marked.countP (·.2)))

/-- Carries out a query. -/
def select (now : Timestamp) (tree : Tree) : Work Unit := do
  match ← check ((← get).database.runSelect now tree) with
  | .changed lastId affected => write (.result lastId affected)
  | .rows header cells =>
    write (.header header)
    cells.forM fun row => write (.row row)
    write .rowEnd

/-- Carries out one statement. -/
def perform (now : Timestamp) (tree : Tree) : Work Unit :=
  match tree.token with
  | .create => create now tree
  | .drop => drop tree
  | .truncate => truncate tree
  | .insert => insert now tree
  | .update => update now tree
  | .delete => delete now tree
  | .select => select now tree
  | .beginTx => throw (.unimplemented (Text.upperCase tree.lexeme ++ " statement"))
  | .commit => throw (.unimplemented (Text.upperCase tree.lexeme ++ " statement"))
  | .rollback => throw (.unimplemented (Text.upperCase tree.lexeme ++ " statement"))
  | other => throw (.shape (.tree (.statement other)))

/-! ## What the work comes to -/

/-- Whether work comes to an outcome: the reply is written and the database is the new one, or there
is an error and the desk is as it was. -/
def ComesTo (work : Work Unit) (desk : Desk) (outcome : Except Error (Reply × Database)) : Prop :=
  work desk =
    match outcome with
    | .ok (reply, database) => .ok () ⟨database, desk.written ++ reply.messages⟩
    | .error error => .error error desk

section Steps

variable {desk : Desk} {name : String} {table : Relation}

theorem comesTo_check {outcome : Except Error α} {work : α → Work Unit}
    {next : α → Except Error (Reply × Database)}
    (rest : ∀ value, outcome = .ok value → ComesTo (work value) desk (next value)) :
    ComesTo (check outcome >>= work) desk (outcome >>= next) := by
  cases outcome with
  | ok value => exact rest value rfl
  | error error => rfl

theorem comesTo_relation {work : Relation → Work Unit}
    {next : Relation → Except Error (Reply × Database)}
    (rest : ∀ table, desk.database.find? name = some table →
      ComesTo (work table) desk (next table)) :
    ComesTo (relation name >>= work) desk (desk.database.relation name >>= next) := by
  change ComesTo (check (desk.database.relation name) >>= work) desk _
  exact comesTo_check fun table found => rest table (Database.relation_eq_ok.mp found)

theorem relation_bind (found : desk.database.find? name = some table)
    (work : Relation → Work Unit) : (relation name >>= work) desk = work table desk := by
  change (check (desk.database.relation name) >>= work) desk = _
  rw [Database.relation_eq_ok.mpr found]
  rfl

theorem alter_alter (first second : Relation → Relation) :
    (alter name first >>= fun _ => alter name second) = alter name (second ∘ first) := by
  funext desk
  have twice : (desk.database.relations.modify name first).modify name second =
      desk.database.relations.modify name (second ∘ first) := by
    apply Std.ExtTreeMap.ext_getElem?
    intro other
    simp only [Std.ExtTreeMap.getElem?_modify]
    split <;> simp
  change EStateM.Result.ok () (⟨⟨_⟩, _⟩ : Desk) = .ok () ⟨⟨_⟩, _⟩
  rw [twice]

/-- Changing a table in place is putting the changed table under its name. -/
theorem comesTo_alter (found : desk.database.find? name = some table)
    {change : Relation → Relation} (named : (change table).name = name) (lastId affected : Int) :
    ComesTo (alter name change >>= fun _ => write (.result lastId affected)) desk
      (pure (.changed lastId affected, desk.database.put (change table))) := by
  have changed : desk.database.relations.modify name change =
      desk.database.relations.insert name (change table) := by
    apply Std.ExtTreeMap.ext_getElem?
    intro other
    have here : desk.database.relations[name]? = some table := found
    simp [Std.ExtTreeMap.getElem?_modify, Std.ExtTreeMap.getElem?_insert, here]
  change EStateM.Result.ok () (⟨⟨desk.database.relations.modify name change⟩, _⟩ : Desk) = _
  rw [changed, Database.put, named]
  rfl

theorem comesTo_insertAll (found : desk.database.find? name = some table)
    (named : table.name = name) {rows : List Row} {sequence : Int64} {lastId affected : Int} :
    ComesTo
      (do
        insertAll name rows
        setSequence name sequence
        write (.result lastId affected))
      desk
      (do
        let table ← table.insertAll rows
        return (.changed lastId affected, desk.database.put { table with sequence })) := by
  simp only [insertAll, Relation.insertAll, bind_assoc]
  unfold ComesTo
  rw [relation_bind found]
  by_cases narrow : rows.any (·.length != table.columns.length) = true
  · simp only [if_pos narrow]
    rfl
  · simp only [if_neg narrow, bind_assoc]
    refine comesTo_check fun _ _ => ?_
    simp only [setSequence, ← bind_assoc, alter_alter]
    exact comesTo_alter found named lastId affected

theorem comesTo_replaceRows (found : desk.database.find? name = some table)
    (named : table.name = name) {rows : List Row} {sequence : Int64} {lastId affected : Int} :
    ComesTo
      (do
        replaceRows name rows
        setSequence name sequence
        write (.result lastId affected))
      desk
      (do
        let table ← table.replaceRows rows
        return (.changed lastId affected, desk.database.put { table with sequence })) := by
  simp only [replaceRows, Relation.replaceRows, bind_assoc]
  unfold ComesTo
  rw [relation_bind found]
  refine comesTo_check fun _ _ => ?_
  simp only [setSequence, ← bind_assoc, alter_alter]
  exact comesTo_alter found named lastId affected

theorem writeRows_bind (cells : List (List (Option String))) (next : Work Unit) (desk : Desk) :
    (cells.forM (fun row => write (.row row)) >>= fun _ => next) desk =
      next ⟨desk.database, desk.written ++ cells.map .row⟩ := by
  induction cells generalizing desk with
  | nil =>
      rw [List.map_nil, List.append_nil]
      rfl
  | cons row cells induction =>
      change (cells.forM (fun row => write (.row row)) >>= fun _ => next)
        ⟨desk.database, desk.written ++ [.row row]⟩ = _
      rw [induction, List.map_cons, List.append_assoc, List.singleton_append]

end Steps

/-! ## The statements come to their outcomes -/

variable {now : Timestamp} {desk : Desk} {tree : Tree}

theorem comesTo_runInsert (sound : desk.database.Sound) :
    ComesTo (insert now tree) desk (desk.database.runInsert now tree) := by
  simp only [insert, Database.runInsert]
  cases (tree.find? .into).bind Tree.onlyChild? with
  | none => rfl
  | some target =>
      obtain ⟨token, name, columns⟩ := target
      cases token with
      | identifier =>
          refine comesTo_check fun values _ => ?_
          refine comesTo_relation fun table found => ?_
          refine comesTo_check fun targets _ => ?_
          refine comesTo_check fun (rows, numbering) _ => ?_
          exact comesTo_insertAll found (sound name table found).1
      | _ => rfl

theorem comesTo_runUpdate (sound : desk.database.Sound) :
    ComesTo (update now tree) desk (desk.database.runUpdate now tree) := by
  simp only [update, Database.runUpdate]
  refine comesTo_check fun name _ => ?_
  refine comesTo_check fun set _ => ?_
  refine comesTo_relation fun table found => ?_
  refine comesTo_check fun predicate _ => ?_
  refine comesTo_check fun changes _ => ?_
  refine comesTo_check fun marked _ => ?_
  refine comesTo_check fun rows _ => ?_
  by_cases none : marked.countP (·.2) = 0
  · rw [if_neg (not_not_intro none), if_pos none, none]
    rfl
  · rw [if_pos none, if_neg none]
    refine comesTo_check fun numbering _ => ?_
    exact comesTo_replaceRows found (sound name table found).1

theorem comesTo_runDelete (sound : desk.database.Sound) :
    ComesTo (delete now tree) desk (desk.database.runDelete now tree) := by
  simp only [delete, Database.runDelete]
  refine comesTo_check fun source _ => ?_
  refine comesTo_check fun name _ => ?_
  refine comesTo_relation fun table found => ?_
  refine comesTo_check fun predicate _ => ?_
  refine comesTo_check fun marked _ => ?_
  exact comesTo_alter found (sound name table found).1 _ _

theorem comesTo_runTruncate (sound : desk.database.Sound) :
    ComesTo (truncate tree) desk (desk.database.runTruncate tree) := by
  unfold truncate Database.runTruncate
  cases tree.onlyChild? with
  | none => rfl
  | some target =>
      obtain ⟨token, lexeme, children⟩ := target
      cases token with
      | table =>
          refine comesTo_check fun name _ => ?_
          refine comesTo_relation fun table found => ?_
          exact comesTo_alter found (sound name table found).1 _ _
      | _ => rfl

theorem comesTo_runDrop : ComesTo (drop tree) desk (desk.database.runDrop tree) := by
  unfold drop Database.runDrop
  cases tree.onlyChild? with
  | none => rfl
  | some target =>
      obtain ⟨token, lexeme, children⟩ := target
      cases token with
      | database => rcases children with _ | ⟨only, _ | _⟩ <;> rfl
      | table =>
          rcases children with _ | ⟨named, _ | _⟩
          · rfl
          · simp only [Database.drop, dropRelation, bind_assoc]
            exact comesTo_relation fun table found => rfl
          · rfl
      | _ => rfl

theorem comesTo_createTable {target : Tree} :
    ComesTo (createTable now target) desk (desk.database.createTable now target) := by
  simp only [createTable, Database.createTable]
  refine comesTo_check fun named _ => ?_
  change ComesTo (if desk.database.contains named.lexeme = true then _ else _) desk _
  by_cases present : desk.database.contains named.lexeme = true
  · simp only [if_pos present]
    split <;> rfl
  · simp only [if_neg present]
    split
    · rfl
    · refine comesTo_check fun columns _ => ?_
      change EStateM.bind (if desk.database.contains named.lexeme = true then _ else _) _ desk = _
      simp only [Database.create, if_neg present]
      rfl

theorem comesTo_runCreate :
    ComesTo (create now tree) desk (desk.database.runCreate now tree) := by
  simp only [create, Database.runCreate]
  refine comesTo_check fun target _ => ?_
  cases target.token with
  | database => exact comesTo_check fun name _ => rfl
  | table => exact comesTo_createTable
  | _ => rfl

theorem comesTo_runSelect :
    ComesTo (select now tree) desk
      (desk.database.runSelect now tree >>= fun reply => pure (reply, desk.database)) := by
  change ComesTo (check (desk.database.runSelect now tree) >>= _) desk _
  refine comesTo_check fun reply _ => ?_
  cases reply with
  | changed lastId affected => rfl
  | rows header cells =>
      change (cells.forM (fun row => write (.row row)) >>= fun _ => write .rowEnd)
        ⟨desk.database, desk.written ++ [.header header]⟩ = _
      rw [writeRows_bind]
      change EStateM.Result.ok () (⟨desk.database, _⟩ : Desk) = .ok () ⟨desk.database, _⟩
      simp [Reply.messages]

/-- Carried out on a conforming database, a statement comes to what its function gives. -/
theorem comesTo_execute (sound : desk.database.Sound) (now : Timestamp) (tree : Tree) :
    ComesTo (perform now tree) desk (desk.database.execute now tree) := by
  unfold perform Database.execute
  cases tree.token with
  | create => exact comesTo_runCreate
  | drop => exact comesTo_runDrop
  | truncate => exact comesTo_runTruncate sound
  | insert => exact comesTo_runInsert sound
  | update => exact comesTo_runUpdate sound
  | delete => exact comesTo_runDelete sound
  | select => exact comesTo_runSelect
  | _ => rfl

end Work
end SqlEngine
