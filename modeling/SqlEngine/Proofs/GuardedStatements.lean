import SqlEngine.Proofs.GuardedRows
import SqlEngine.Proofs.Histories

/-!
# Statements, place by place

Definitions of columns, names of tables that go and answers to queries look at places as well.  So
every statement is run place by place here, and comes out as it does without: whatever its tree is,
and whatever the database has been through, no place is looked at that is not there.
-/

namespace SqlEngine
namespace Guarded

variable {now : Timestamp} {relation : Relation} {database : Database}

/-! ## Making and removing tables -/

/-- The column that a node defines, with its type first and its constraints behind. -/
def columnOfTree (now : Timestamp) (tree : Tree) : Guarded Column := do
  if tree.token ≠ .columnDef then .error (.error (.shape (.tree .notColumn)))
  match tree.children.head? with
  | some type@⟨.typeName, _, _⟩ =>
    let column := Column.ofType tree.lexeme (← lift (Column.typeOfTree type))
    let constraints ← slice tree.children 1
    let column ← lift (constraints.foldlM (Column.constrain now) column)
    lift column.checkNumbering
    return column
  | _ => .error (.error (.shape (.tree (.noType tree.lexeme))))

/-- The columns that nodes define, which must have names not seen before. -/
def columnsOfTrees (now : Timestamp) (seen : List String) : List Tree → Guarded (List Column)
  | [] => .ok []
  | tree :: trees => do
    let column ← columnOfTree now tree
    if seen.contains column.name then .error (.error (.shape (.duplicateColumn column.name)))
    return column :: (← columnsOfTrees now (column.name :: seen) trees)

/-- Makes a table, unless there is one of its name. -/
def createTable (now : Timestamp) (database : Database) (target : Tree) :
    Guarded (Reply × Database) := do
  let named ← lift (Tree.require (target.find? .identifier) (.noName "table"))
  if database.contains named.lexeme then
    if target.has .ifNotExists then return (.changed 0 0, database)
    .error (.error (.alreadyExists named.lexeme))
  if named.children.isEmpty then
    .error (.error (.shape (.tree (.noColumns named.lexeme))))
  let columns ← columnsOfTrees now [] named.children
  return (.changed 0 1, ← lift (database.create { name := named.lexeme, columns }))

/-- Makes a table or acknowledges a database. -/
def runCreate (now : Timestamp) (database : Database) (tree : Tree) :
    Guarded (Reply × Database) := do
  let target ← lift (Tree.require tree.onlyChild? (.arguments "create"))
  match target.token with
  | .database =>
    let _ ← lift (Tree.identifier (target.find? .identifier) "database")
    return (.changed 0 1, database)
  | .table => createTable now database target
  | _ => .error (.error (.shape (.tree (.arguments "create"))))

/-- Removes a table, or acknowledges that a database goes. -/
def runDrop (database : Database) (tree : Tree) : Guarded (Reply × Database) :=
  match tree.onlyChild?.filter fun target =>
      (target.token == .database || target.token == .table) && target.children.length == 1 with
  | none => .error (.error (.shape (.tree (.arguments "drop"))))
  | some target =>
    if target.token = .database then .ok (.changed 0 1, database)
    else do
      let named ← lookup target.children 0
      let (_, rest) ← lift (database.drop named.lexeme)
      return (.changed 0 1, rest)

/-! ## Queries -/

/-- What a query shows of the rows that it finds: columns by their places, or the number of rows. -/
inductive Output where
  /-- Columns, in the order in which they are shown. -/
  | columns (places : List Nat)
  /-- The number of rows. -/
  | count

/-- What a node chooses to show of a table. -/
def outputOfTree (relation : Relation) (tree : Tree) : Guarded Output :=
  match tree.children.head? with
  | some ⟨.star, _, _⟩ => .ok (.columns (List.range relation.columns.length))
  | some ⟨.count, _, _⟩ => .ok .count
  | some ⟨.identifier, _, _⟩ => do
    return .columns (← tree.children.mapM fun named => columnPlace relation named.lexeme)
  | _ => .error (.error (.shape (.tree .projection)))

/-- The names over what is shown. -/
def header (relation : Relation) : Output → Guarded (List String)
  | .columns places => places.mapM fun place => return (← lookup relation.columns place).name
  | .count => .ok ["COUNT(*)"]

/-- What is shown of the rows found. -/
def cells (rows : List Row) : Output → Guarded (List (List (Option String)))
  | .columns places => rows.mapM fun row => places.mapM fun place =>
    return (← lookup row place).cell?
  | .count => .ok [[some (toString rows.length)]]

/-- The rows in the order that a clause asks for.  The cells of all rows are looked at, and not only
those of rows that are compared. -/
def sortRows (relation : Relation) (rows : List Row) (clause : Option Tree) : Guarded (List Row) :=
  match clause with
  | none => .ok rows
  | some order => do
    let named ← lift (Tree.require order.onlyChild? (.arguments "order"))
    let place ← columnPlace relation named.lexeme
    let keyed ← rows.mapM fun row => return (← lookup row place, row)
    let sorted := keyed.mergeSort fun left right => inOrder (named.has .desc) left.1 right.1
    return sorted.map (·.2)

/-- The answer to a query. -/
def runSelect (now : Timestamp) (database : Database) (tree : Tree) : Guarded Reply := do
  let source ← lift (Tree.require (tree.find? .fromTable) (.missing "select" "FROM"))
  let relation ← lift (database.relation (← lift (Tree.identifier source.onlyChild? "table")))
  let chosen ← lift (Tree.require (tree.find? .projection) (.missing "select" "a projection"))
  let output ← outputOfTree relation chosen
  let predicate ← compileClause now relation (tree.find? .whereClause)
  let marked ← mark predicate relation.rows
  let found := (marked.filter (·.2)).map (·.1)
  let sorted ← sortRows relation found (tree.find? .order)
  let names ← header relation output
  let cells ← cells sorted output
  let offset ← lift (rowCount (tree.find? .offset))
  let limit ← lift (rowCount (tree.find? .limit))
  let rest := cells.drop (offset.getD 0)
  return .rows names (limit.elim rest rest.take)

/-! ## Statements -/

/-- Runs one statement at a given time, place by place. -/
def execute (now : Timestamp) (database : Database) (tree : Tree) : Guarded (Reply × Database) :=
  match tree.token with
  | .create => runCreate now database tree
  | .drop => runDrop database tree
  | .truncate => lift (database.runTruncate tree)
  | .insert => runInsert now database tree
  | .update => runUpdate now database tree
  | .delete => runDelete now database tree
  | .select => do return (← runSelect now database tree, database)
  | .beginTx => .error (.error (.unimplemented (Text.upperCase tree.lexeme ++ " statement")))
  | .commit => .error (.error (.unimplemented (Text.upperCase tree.lexeme ++ " statement")))
  | .rollback => .error (.error (.unimplemented (Text.upperCase tree.lexeme ++ " statement")))
  | other => .error (.error (.shape (.tree (.statement other))))

/-! ## Tables are made and removed in the same way -/

theorem columnOfTree_eq_lift (now : Timestamp) (tree : Tree) :
    columnOfTree now tree = lift (Column.ofTree now tree) := by
  obtain ⟨token, lexeme, children⟩ := tree
  refine ite_eq_lift (fun _ => rfl) fun _ => ?_
  cases children with
  | nil => rfl
  | cons type constraints =>
      obtain ⟨token, name, children⟩ := type
      by_cases typed : token = .typeName
      · subst typed
        refine bind_lift_eq_lift fun column _ => ?_
        rw [slice_eq_ok (Nat.le_add_left 1 constraints.length)]
        exact bind_lift_eq_lift fun column _ => bind_lift_eq_lift fun _ _ => rfl
      · cases token <;> first | exact absurd rfl typed | rfl

theorem columnsOfTrees_eq_lift (now : Timestamp) (seen : List String) (trees : List Tree) :
    columnsOfTrees now seen trees = lift (Column.listOfTrees now seen trees) := by
  induction trees generalizing seen with
  | nil => rfl
  | cons tree trees induction =>
      rw [columnsOfTrees, Column.listOfTrees, columnOfTree_eq_lift]
      refine bind_lift_eq_lift fun column _ => ?_
      refine ite_eq_lift (fun _ => rfl) fun _ => ?_
      change (columnsOfTrees now (column.name :: seen) trees >>= _) = _
      rw [induction]
      exact bind_lift_eq_lift fun _ _ => rfl

theorem createTable_eq_lift (now : Timestamp) (database : Database) (target : Tree) :
    createTable now database target = lift (database.createTable now target) := by
  refine bind_lift_eq_lift fun named _ => ?_
  refine ite_eq_lift (fun _ => ite_eq_lift (fun _ => rfl) fun _ => rfl) fun _ => ?_
  refine ite_eq_lift (fun _ => rfl) fun _ => ?_
  change (columnsOfTrees now [] named.children >>= _) = _
  rw [columnsOfTrees_eq_lift]
  exact bind_lift_eq_lift fun _ _ => bind_lift_eq_lift fun _ _ => rfl

theorem runCreate_eq_lift (now : Timestamp) (database : Database) (tree : Tree) :
    runCreate now database tree = lift (database.runCreate now tree) := by
  refine bind_lift_eq_lift fun target _ => ?_
  cases target.token
  case database => exact bind_lift_eq_lift fun _ _ => rfl
  case table => exact createTable_eq_lift now database target
  all_goals rfl

theorem runDrop_eq_lift (database : Database) (tree : Tree) :
    runDrop database tree = lift (database.runDrop tree) := by
  rw [runDrop, Database.runDrop]
  cases tree.onlyChild? with
  | none => rfl
  | some target =>
      obtain ⟨token, lexeme, children⟩ := target
      cases token
      case database =>
        match children with
        | [] => rfl
        | [_] => rfl
        | _ :: _ :: _ => rfl
      case table =>
        match children with
        | [] => rfl
        | [named] => exact bind_lift_eq_lift fun _ _ => rfl
        | _ :: _ :: _ => rfl
      all_goals rfl

/-! ## Queries are answered in the same way -/

/-- What a query shows, by places alone. -/
def output : Projection → Output
  | .columns chosen => .columns (chosen.map Prod.snd)
  | .count => .count

theorem outputOfTree_eq_lift (relation : Relation) (tree : Tree) :
    outputOfTree relation tree = lift (output <$> Projection.ofTree relation tree) := by
  obtain ⟨token, lexeme, children⟩ := tree
  rw [outputOfTree, Projection.ofTree]
  cases children with
  | nil => rfl
  | cons first others =>
      obtain ⟨token, name, children⟩ := first
      cases token
      case star =>
        refine congrArg (fun places => Except.ok (Output.columns places)) ?_
        rw [List.zipIdx_map_snd, List.range_eq_range']
      case identifier =>
        dsimp only [List.head?_cons]
        rw [map_bind, mapM_eq_lift fun named _ => columnPlace_eq_lift relation named.lexeme]
        exact bind_eq_lift rfl fun _ _ => rfl
      all_goals rfl

theorem getElem?_of_projection {tree : Tree} {chosen : List (Column × Nat)}
    (done : Projection.ofTree relation tree = .ok (.columns chosen)) :
    ∀ entry ∈ chosen, relation.columns[entry.2]? = some entry.1 := by
  rintro ⟨column, place⟩ member
  unfold Projection.ofTree at done
  split at done
  · obtain rfl := Projection.columns.inj (Except.ok.inj done)
    exact List.mk_mem_zipIdx_iff_getElem?.mp member
  · cases Except.ok.inj done
  · simp only [Checked.bind_eq_ok, Checked.pure_eq_ok] at done
    obtain ⟨_, found, same⟩ := done
    obtain rfl := Projection.columns.inj same
    obtain ⟨named, -, here⟩ := Checked.exists_of_mem_right (Checked.mapM_eq_ok.mp found) member
    exact Relation.getElem?_of_column here
  · contradiction

theorem header_eq_ok {tree : Tree} {projection : Projection}
    (done : Projection.ofTree relation tree = .ok projection) :
    header relation (output projection) = .ok projection.header := by
  cases projection with
  | count => rfl
  | columns chosen =>
      have there := getElem?_of_projection done
      clear done
      induction chosen with
      | nil => rfl
      | cons entry chosen induction =>
          obtain ⟨here, others⟩ := List.forall_mem_cons.mp there
          have rest := induction others
          dsimp only [header, output] at rest ⊢
          rw [List.map_cons, List.mapM_cons, rest, lookup_eq_ok here]
          rfl

theorem cells_eq_lift {projection : Projection} {width : Nat} (within : projection.Within width)
    {rows : List Row} (wide : ∀ row ∈ rows, row.length = width) :
    cells rows (output projection) = lift (projection.cells rows) := by
  cases projection with
  | count => rfl
  | columns chosen =>
      refine mapM_lift fun row member => ?_
      obtain rfl := wide row member
      rw [List.mapM_map]
      refine mapM_lift fun entry listed => ?_
      dsimp only [Function.comp]
      rw [lookup_eq_lift (within entry listed)]
      exact bind_lift_eq_lift fun _ _ => rfl

theorem sortRows_eq_lift {rows : List Row}
    (wide : ∀ row ∈ rows, row.length = relation.columns.length) (clause : Option Tree) :
    sortRows relation rows clause = lift (SqlEngine.sortRows relation rows clause) := by
  cases clause with
  | none => rfl
  | some order =>
      refine bind_lift_eq_lift fun named _ => ?_
      refine bind_eq_lift (columnPlace_eq_lift relation named.lexeme) ?_
      rintro ⟨column, place⟩ found
      have inside := (List.getElem?_eq_some_iff.mp (Relation.getElem?_of_column found)).1
      have keyed : (rows.mapM fun row => return (← lookup row place, row)) =
          lift (rows.mapM fun row => return (← row.cell place, row)) := by
        refine mapM_lift fun row member => ?_
        rw [lookup_eq_lift ((wide row member).symm ▸ inside)]
        exact bind_lift_eq_lift fun _ _ => rfl
      dsimp only
      rw [keyed]
      exact bind_lift_eq_lift fun _ _ => rfl

theorem runSelect_eq_lift (sound : database.Sound) (now : Timestamp) (tree : Tree) :
    runSelect now database tree = lift (database.runSelect now tree) := by
  refine bind_lift_eq_lift fun source _ => bind_lift_eq_lift fun name _ =>
    bind_lift_eq_lift fun relation found => bind_lift_eq_lift fun chosen _ => ?_
  refine bind_eq_lift (outputOfTree_eq_lift relation chosen) fun projection projected => ?_
  rw [compileClause_eq_lift]
  refine bind_lift_eq_lift fun predicate compiled => ?_
  have wide := wide_of_relation sound found
  rw [mark_eq_lift (Predicate.within_of_ofClause compiled) wide]
  refine bind_lift_eq_lift fun marked marks => ?_
  have wide : ∀ row ∈ (marked.filter (·.2)).map (·.1), row.length = relation.columns.length := by
    intro row member
    obtain ⟨entry, listed, rfl⟩ := List.mem_map.mp member
    refine wide entry.1 ?_
    rw [← Predicate.map_fst_mark marks]
    exact List.mem_map_of_mem (List.mem_filter.mp listed).1
  dsimp only
  rw [sortRows_eq_lift wide]
  refine bind_lift_eq_lift fun sorted ordered => ?_
  have wide : ∀ row ∈ sorted, row.length = relation.columns.length := fun row member =>
    wide row (mem_of_mem_sortRows ordered member)
  rw [header_eq_ok projected, cells_eq_lift (Projection.within_of_ofTree projected) wide]
  exact bind_lift_eq_lift fun cells _ => bind_lift_eq_lift fun _ _ =>
    bind_lift_eq_lift fun _ _ => rfl

/-- Place by place, a statement comes to the same in a database that conforms. -/
theorem execute_eq_lift (sound : database.Sound) (now : Timestamp) (tree : Tree) :
    execute now database tree = lift (database.execute now tree) := by
  unfold execute Database.execute
  cases tree.token
  case create => exact runCreate_eq_lift now database tree
  case drop => exact runDrop_eq_lift database tree
  case insert => exact runInsert_eq_lift sound now tree
  case update => exact runUpdate_eq_lift sound now tree
  case delete => exact runDelete_eq_lift sound now tree
  case select =>
    dsimp only
    rw [runSelect_eq_lift sound]
    exact bind_lift_eq_lift fun _ _ => rfl
  all_goals rfl

end Guarded

/-- Whether a row has a cell in every place that statements about its table look at. -/
structure Relation.Covers (relation : Relation) (row : Row) : Prop where
  /-- Every predicate that a clause comes to stays within the row. -/
  predicates : ∀ now clause predicate, Predicate.ofClause now relation clause = .ok predicate →
    ∀ place ∈ predicate.places, place < row.length
  /-- So do the columns that a query shows. -/
  projections : ∀ tree chosen, Projection.ofTree relation tree = .ok (.columns chosen) →
    ∀ entry ∈ chosen, entry.2 < row.length
  /-- So does every column that a name stands for, as the one that an order goes by. -/
  names : ∀ name column place, relation.column name = .ok (column, place) → place < row.length
  /-- So does every change to a row. -/
  changes : ∀ now tree column place value,
    relation.assignment now tree = .ok (column, place, value) → place < row.length
  /-- There is a cell for every column in which no value may stand twice. -/
  unique : ∀ (column : Column) (place : Nat), relation.columns[place]? = some column →
    column.isUnique = true → ∃ value, row[place]? = some value

theorem Relation.covers_of_length_eq {relation : Relation} {row : Row}
    (wide : row.length = relation.columns.length) : relation.Covers row where
  predicates now clause predicate compiled place looked := by
    obtain ⟨tree, -, named⟩ := Predicate.named_of_ofClause compiled looked
    rw [wide]
    exact named.lt
  projections tree chosen projected entry listed := by
    rw [wide]
    exact Projection.within_of_ofTree projected entry listed
  names name column place found := by
    rw [wide]
    exact (List.getElem?_eq_some_iff.mp (getElem?_of_column found)).1
  changes now tree column place value assigned := by
    have assignments : [tree].mapM (relation.assignment now) = .ok [(column, place, value)] :=
      Checked.mapM_eq_ok.mpr (.cons assigned .nil)
    have there := (suits_of_assignments assignments column place value List.mem_cons_self).1
    rw [wide]
    exact (List.getElem?_eq_some_iff.mp there).1
  unique column place there _ := by
    have inside := (List.getElem?_eq_some_iff.mp there).1
    rw [← wide] at inside
    exact ⟨row[place], List.getElem?_eq_getElem inside⟩

/-- Behind every history, no statement looks at a place that a list does not have, whatever its tree
is: run place by place it never halts there, and comes to what it comes to.  Every row has a cell in
all the places that statements about its table look at. -/
theorem Database.no_place_missed_after_calls (history : List (Timestamp × Call)) (now : Timestamp)
    (tree : Tree) :
    (∀ place length,
      Guarded.execute now (empty.calls history) tree ≠ .error (.outside place length)) ∧
      Guarded.execute now (empty.calls history) tree =
        Guarded.lift ((empty.calls history).execute now tree) ∧
      (∀ place, (empty.calls history).execute now tree ≠ .error (.noCell place)) ∧
      ∀ name relation, (empty.calls history).find? name = some relation →
        ∀ row ∈ relation.rows, relation.Covers row := by
  have sound : (empty.calls history).Sound := sound_empty.calls history
  have same := Guarded.execute_eq_lift sound now tree
  refine ⟨fun place length => ?_, same, fun place => sound.orderly_execute now tree _, ?_⟩
  · rw [same]
    exact Guarded.lift_ne_outside _ place length
  · intro name relation found row member
    exact Relation.covers_of_length_eq ((sound name relation found).2.rows_fit row member).length_eq

end SqlEngine
