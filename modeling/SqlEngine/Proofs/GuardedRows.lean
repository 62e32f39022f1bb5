import SqlEngine.Proofs.GuardedConditions

/-!
# Adding, changing and removing rows, place by place

New rows are made of cells that are filled by the places of their columns, changed rows are copies in
which places are written over, and a column without repetition is looked through at its place in
every row.  In a table that conforms, every one of these places is there, and what comes of it is what
comes of the statement.
-/

namespace SqlEngine
namespace Guarded

variable {now : Timestamp} {relation : Relation}

/-! ## New rows -/

/-- The places of the columns that a list names, none of which was named before. -/
def named (relation : Relation) (seen : List Nat) : List Tree → Guarded (List Nat)
  | [] => .ok []
  | name :: names => do
    let place ← columnPlace relation name.lexeme
    if seen.contains place then .error (.error (.shape (.listedTwice name.lexeme)))
    return place :: (← named relation (place :: seen) names)

/-- The places of the columns that a list names, each once; an empty list names all. -/
def targets (relation : Relation) (names : List Tree) : Guarded (List Nat) :=
  if names.isEmpty then .ok (List.range relation.columns.length) else named relation [] names

/-- The cells of a row with the values of literals at the places of their columns. -/
def fill (now : Timestamp) (relation : Relation) (cells : List (Option Value)) :
    List (Nat × Tree) → Guarded (List (Option Value))
  | [] => .ok cells
  | (place, literal) :: others => do
    let column ← lookup relation.columns place
    let value ← lift (literal.typedValue now column.type)
    fill now relation (← store cells place (some value)) others

/-- The rows that nodes stand for, and the numbering behind them. -/
def newRows (now : Timestamp) (relation : Relation) (places : List Nat) (numbering : Numbering) :
    List Tree → Guarded (List Row × Numbering)
  | [] => .ok ([], numbering)
  | tuple :: tuples => do
    if tuple.children.length ≠ places.length then .error (.error .columnCountMismatch)
    let cells ← fill now relation (List.replicate relation.columns.length none)
      (places.zip tuple.children)
    let (row, numbering) ← lift (numbering.row (relation.columns.zip cells))
    let (rows, numbering) ← newRows now relation places numbering tuples
    return (row :: rows, numbering)

/-! ## Columns without repetition -/

/-- Refuses rows of which two have the same value at a place, or one has a value seen before. -/
def checkDistinct (column : Column) (place : Nat) (seen : List String) : List Row → Guarded Unit
  | [] => .ok ()
  | row :: rows => do
    let value ← lookup row place
    if value.isNull then checkDistinct column place seen rows
    else if seen.contains value.literal then
      .error (.error (.constraint (.duplicate value.toText column.name)))
    else checkDistinct column place (value.literal :: seen) rows

/-- Refuses rows with a value twice in a column where no value may stand twice. -/
def checkUnique (relation : Relation) (rows : List Row) : Guarded Unit :=
  relation.columns.zipIdx.forM fun (column, place) =>
    if column.isUnique then checkDistinct column place [] rows else .ok ()

/-- The table with more rows. -/
def insertAll (relation : Relation) (rows : List Row) : Guarded Relation := do
  if rows.any (·.length != relation.columns.length) then .error (.error .columnCountMismatch)
  checkUnique relation (relation.rows ++ rows)
  return { relation with rows := relation.rows ++ rows }

/-- The table with other rows. -/
def replaceRows (relation : Relation) (rows : List Row) : Guarded Relation := do
  checkUnique relation rows
  return { relation with rows }

/-! ## Changed rows -/

/-- The change to a row that a node stands for: the place of a column and its new value. -/
def assignment (now : Timestamp) (relation : Relation) (tree : Tree) : Guarded (Nat × Value) :=
  match tree.children.head?, tree.children[1]? with
  | some named, some literal => do
    let place ← columnPlace relation named.lexeme
    let column ← lookup relation.columns place
    let value ← lift (literal.typedValue now column.type)
    lift (column.checkNull value)
    return (place, value)
  | _, _ => .error (.error (.shape (.tree .assignment)))

/-- A row after several changes. -/
def assign (row : Row) : List (Nat × Value) → Guarded Row
  | [] => .ok row
  | (place, value) :: others => do assign (← store row place value) others

/-- The rows with the changes made in those that meet a predicate, and how many these are. -/
def changeRows (predicate : Predicate) (changes : List (Nat × Value)) :
    List Row → Guarded (List Row × Nat)
  | [] => .ok ([], 0)
  | row :: rows => do
    let chosen ← holds row predicate
    let row ← (if chosen then assign row changes else .ok row : Guarded Row)
    let (rows, changed) ← changeRows predicate changes rows
    return (row :: rows, if chosen then changed + 1 else changed)

/-- The numbering after several changes. -/
def noteChanges (relation : Relation) (numbering : Numbering) :
    List (Nat × Value) → Guarded Numbering
  | [] => .ok numbering
  | (place, value) :: others => do
    let column ← lookup relation.columns place
    let numbering ← (if column.autoincrement then lift (numbering.note value) else .ok numbering :
      Guarded Numbering)
    noteChanges relation numbering others

/-- Every row with the mark whether it meets a predicate. -/
def mark (predicate : Predicate) (rows : List Row) : Guarded (List (Row × Bool)) :=
  rows.mapM fun row => return (row, ← holds row predicate)

/-! ## Statements -/

/-- Adds rows to a table. -/
def runInsert (now : Timestamp) (database : Database) (tree : Tree) :
    Guarded (Reply × Database) := do
  let into ← match (tree.find? .into).bind Tree.onlyChild? with
    | some into@⟨.identifier, _, _⟩ => .ok into
    | _ => .error (.error (.shape (.tree (.arguments "insert"))))
  let values ← lift (Tree.require (tree.find? .values) (.missing "insert" "VALUES"))
  let relation ← lift (database.relation into.lexeme)
  let places ← targets relation into.children
  let (rows, numbering) ← newRows now relation places ⟨relation.sequence, 0⟩ values.children
  let relation ← insertAll relation rows
  return (.changed numbering.lastId.toInt rows.length,
    database.put { relation with sequence := numbering.sequence })

/-- Changes the rows of a table that meet a condition. -/
def runUpdate (now : Timestamp) (database : Database) (tree : Tree) :
    Guarded (Reply × Database) := do
  let name ← lift (Tree.identifier tree.children.head? "table")
  let set ← lift (Tree.require (tree.find? .assignments) (.missing "update" "SET"))
  let relation ← lift (database.relation name)
  let predicate ← compileClause now relation (tree.find? .whereClause)
  let changes ← set.children.mapM (assignment now relation)
  let (rows, changed) ← changeRows predicate changes relation.rows
  if changed = 0 then return (.changed 0 0, database)
  let numbering ← noteChanges relation ⟨relation.sequence, 0⟩ changes
  let relation ← replaceRows relation rows
  return (.changed 0 changed, database.put { relation with sequence := numbering.sequence })

/-- Removes the rows of a table that meet a condition. -/
def runDelete (now : Timestamp) (database : Database) (tree : Tree) :
    Guarded (Reply × Database) := do
  let source ← lift (Tree.require (tree.find? .fromTable) (.missing "delete" "FROM"))
  let relation ← lift (database.relation (← lift (Tree.identifier source.onlyChild? "table")))
  let predicate ← compileClause now relation (tree.find? .whereClause)
  let marked ← mark predicate relation.rows
  let kept := (marked.filter (!·.2)).map (·.1)
  return (.changed 0 (marked.countP (·.2)), database.put { relation with rows := kept })

/-! ## New rows are filled at their places -/

theorem named_eq_lift (relation : Relation) (seen : List Nat) (names : List Tree) :
    named relation seen names =
      lift (List.map Prod.snd <$> Relation.targets.named relation seen names) := by
  induction names generalizing seen with
  | nil => rfl
  | cons name names induction =>
      rw [named, Relation.targets.named, map_bind]
      refine bind_eq_lift (columnPlace_eq_lift relation name.lexeme) fun target _ => ?_
      rw [apply_ite (List.map Prod.snd <$> ·)]
      refine ite_eq_lift (fun _ => rfl) fun _ => ?_
      change (named relation (target.2 :: seen) names >>= _) = _
      rw [induction]
      cases Relation.targets.named relation (target.2 :: seen) names <;> rfl

theorem targets_eq_lift (relation : Relation) (names : List Tree) :
    targets relation names = lift (List.map Prod.snd <$> relation.targets names) := by
  rw [targets, Relation.targets]
  split
  · change _ = Except.ok (relation.columns.zipIdx.map Prod.snd)
    rw [List.zipIdx_map_snd, List.range_eq_range']
  · exact named_eq_lift relation [] names

/-- No column is a target twice. -/
theorem nodup_of_targets {names : List Tree} {found : List (Column × Nat)}
    (done : relation.targets names = .ok found) : (found.map Prod.snd).Nodup := by
  have named (seen : List Nat) (names : List Tree) (found : List (Column × Nat))
      (done : Relation.targets.named relation seen names = .ok found) :
      (found.map Prod.snd).Nodup ∧ ∀ place ∈ found.map Prod.snd, place ∉ seen := by
    induction names generalizing seen found with
    | nil =>
        obtain rfl := Except.ok.inj done
        simp
    | cons name names induction =>
        simp only [Relation.targets.named, Checked.bind_eq_ok] at done
        obtain ⟨target, -, done⟩ := done
        split at done
        · simp [Checked.bind_eq_ok] at done
        · rename_i fresh
          simp only [Checked.bind_eq_ok, Checked.pure_eq_ok] at done
          obtain ⟨others, rest, rfl⟩ := done
          obtain ⟨apart, unseen⟩ := induction (target.2 :: seen) others rest
          refine ⟨List.nodup_cons.mpr ⟨fun again => ?_, apart⟩, ?_⟩
          · exact unseen _ again List.mem_cons_self
          · refine List.forall_mem_cons.mpr ⟨by simpa using fresh, fun place member before => ?_⟩
            exact unseen place member (List.mem_cons_of_mem _ before)
  unfold Relation.targets at done
  split at done
  · obtain rfl := Except.ok.inj done
    rw [List.zipIdx_map_snd]
    exact List.nodup_range'
  · exact (named [] names found done).1

/-- Cells with given values written over them. -/
def written (cells : List (Option Value)) (given : List (Nat × Value)) : List (Option Value) :=
  cells.mapIdx fun place cell => (given.lookup place).or cell

theorem written_nil (cells : List (Option Value)) : written cells [] = cells := by
  refine List.ext_getElem? fun place => ?_
  rw [written, List.getElem?_mapIdx]
  cases cells[place]? <;> rfl

/-- A value that is written first stays, if none of the others is written over it. -/
theorem written_set {cells : List (Option Value)} {place : Nat} {value : Value}
    {given : List (Nat × Value)} (inside : place < cells.length)
    (fresh : given.lookup place = none) :
    written (cells.set place (some value)) given = written cells ((place, value) :: given) := by
  refine List.ext_getElem? fun other => ?_
  rw [written, written, List.getElem?_mapIdx, List.getElem?_mapIdx, List.getElem?_set]
  by_cases same : place = other
  · subst same
    rw [if_pos rfl, if_pos inside, List.getElem?_eq_getElem inside, List.lookup_cons_self, fresh]
    rfl
  · have apart : (other == place) = false := beq_eq_false_iff_ne.mpr (Ne.symm same)
    rw [if_neg same, List.lookup_cons, apart]

theorem lookup_of_givenValues {targets : List (Column × Nat)} {literals : List Tree}
    {given : List (Nat × Value)} (done : Relation.givenValues now targets literals = .ok given)
    {place : Nat} (fresh : place ∉ targets.map Prod.snd) : given.lookup place = none := by
  refine List.lookup_eq_none_iff.mpr ?_
  rintro ⟨other, value⟩ member
  obtain ⟨column, listed, -⟩ := Relation.holds_of_givenValues done member
  refine bne_iff_ne.mpr ?_
  rintro rfl
  exact fresh (List.mem_map.mpr ⟨_, listed, rfl⟩)

theorem givenValues_cons (column : Column) (place : Nat) (targets : List (Column × Nat))
    (literal : Tree) (literals : List Tree) :
    Relation.givenValues now ((column, place) :: targets) (literal :: literals) = (do
      let value ← literal.typedValue now column.type
      return (place, value) :: (← Relation.givenValues now targets literals)) := by
  simp only [Relation.givenValues, List.zip_cons_cons, List.mapM_cons, bind_assoc, pure_bind]

/-- Cells are filled with the values that a row gives. -/
theorem fill_eq_lift {targets : List (Column × Nat)}
    (known : ∀ column place, (column, place) ∈ targets → relation.columns[place]? = some column)
    (distinct : (targets.map Prod.snd).Nodup) {cells : List (Option Value)}
    (wide : cells.length = relation.columns.length) (literals : List Tree) :
    fill now relation cells ((targets.map Prod.snd).zip literals) =
      lift (written cells <$> Relation.givenValues now targets literals) := by
  induction targets generalizing cells literals with
  | nil => exact congrArg Except.ok (written_nil cells).symm
  | cons target targets induction =>
      obtain ⟨column, place⟩ := target
      obtain ⟨fresh, distinct⟩ := List.nodup_cons.mp distinct
      have there := known column place List.mem_cons_self
      have inside : place < cells.length := by
        rw [wide]
        exact (List.getElem?_eq_some_iff.mp there).1
      cases literals with
      | nil => exact congrArg Except.ok (written_nil cells).symm
      | cons literal literals =>
          rw [List.map_cons, List.zip_cons_cons, fill, lookup_eq_ok there, givenValues_cons, map_bind]
          refine bind_lift_eq_lift fun value _ => ?_
          rw [store_eq_ok inside]
          change fill now relation (cells.set place (some value)) _ = _
          rw [induction (fun column place member => known column place (List.mem_cons_of_mem _ member))
            distinct (by rw [List.length_set, wide])]
          cases given : Relation.givenValues now targets literals with
          | error error => rfl
          | ok given =>
              exact congrArg Except.ok (written_set inside (lookup_of_givenValues ‹_› fresh))

/-- The cells that are given together make up the entries of a new row. -/
theorem zip_written (columns : List Column) (given : List (Nat × Value)) :
    columns.zip (written (List.replicate columns.length none) given) =
      columns.zipIdx.map fun (column, place) => (column, given.lookup place) := by
  refine List.ext_getElem? fun place => ?_
  rw [List.getElem?_map, List.getElem?_zipIdx, Nat.zero_add, List.zip, List.getElem?_zipWith,
    written, List.getElem?_mapIdx, List.getElem?_replicate]
  by_cases inside : place < columns.length
  · rw [List.getElem?_eq_getElem inside, if_pos inside]
    exact congrArg (fun cell => some (columns[place], cell)) (Option.or_none)
  · rw [List.getElem?_eq_none (Nat.le_of_not_lt inside)]
    rfl

theorem newRows_eq_lift {targets : List (Column × Nat)}
    (known : ∀ column place, (column, place) ∈ targets → relation.columns[place]? = some column)
    (distinct : (targets.map Prod.snd).Nodup) (numbering : Numbering) (tuples : List Tree) :
    newRows now relation (targets.map Prod.snd) numbering tuples =
      lift (relation.newRows now targets numbering tuples) := by
  induction tuples generalizing numbering with
  | nil => rfl
  | cons tuple tuples induction =>
      rw [newRows, Relation.newRows, List.length_map]
      refine ite_eq_lift (fun _ => rfl) fun _ => ?_
      refine bind_eq_lift (fill_eq_lift known distinct List.length_replicate tuple.children)
        fun given _ => ?_
      rw [zip_written]
      refine bind_lift_eq_lift fun found _ => ?_
      obtain ⟨row, after⟩ := found
      change (newRows now relation _ after tuples >>= _) = _
      rw [induction]
      exact bind_lift_eq_lift fun _ _ => rfl

/-! ## Columns without repetition have their cells -/

theorem checkDistinct_eq_lift {column : Column} {place : Nat} {rows : List Row}
    (inside : ∀ row ∈ rows, place < row.length) (seen : List String) :
    checkDistinct column place seen rows = lift (SqlEngine.checkDistinct column place seen rows) := by
  induction rows generalizing seen with
  | nil => rfl
  | cons row rows induction =>
      obtain ⟨here, there⟩ := List.forall_mem_cons.mp inside
      rw [checkDistinct, SqlEngine.checkDistinct, lookup_eq_lift here]
      refine bind_lift_eq_lift fun value _ => ?_
      exact ite_eq_lift (fun _ => induction there seen) fun _ =>
        ite_eq_lift (fun _ => rfl) fun _ => induction there _

theorem checkUnique_eq_lift {rows : List Row}
    (wide : ∀ row ∈ rows, row.length = relation.columns.length) :
    checkUnique relation rows = lift (relation.checkUnique rows) := by
  refine forM_eq_lift ?_
  rintro ⟨column, place⟩ member
  have inside := (List.getElem?_eq_some_iff.mp (List.mk_mem_zipIdx_iff_getElem?.mp member)).1
  exact ite_eq_lift
    (fun _ => checkDistinct_eq_lift (fun row member => (wide row member) ▸ inside) []) fun _ => rfl

theorem insertAll_eq_lift (wide : ∀ row ∈ relation.rows, row.length = relation.columns.length)
    (rows : List Row) : insertAll relation rows = lift (relation.insertAll rows) := by
  refine ite_eq_lift (fun _ => rfl) fun fitting => ?_
  have all : ∀ row ∈ relation.rows ++ rows, row.length = relation.columns.length := by
    refine List.forall_mem_append.mpr ⟨wide, fun row member => ?_⟩
    by_contra narrow
    exact fitting (List.any_eq_true.mpr ⟨row, member, by simpa using narrow⟩)
  change (checkUnique relation (relation.rows ++ rows) >>= _) = _
  rw [checkUnique_eq_lift all]
  exact bind_lift_eq_lift fun _ _ => rfl

theorem replaceRows_eq_lift {rows : List Row}
    (wide : ∀ row ∈ rows, row.length = relation.columns.length) :
    replaceRows relation rows = lift (relation.replaceRows rows) := by
  rw [replaceRows, Relation.replaceRows, checkUnique_eq_lift wide]
  exact bind_lift_eq_lift fun _ _ => rfl

/-! ## Changed rows have their cells -/

/-- The place and the new value of a change. -/
abbrev change (entry : Column × Nat × Value) : Nat × Value :=
  entry.2

theorem assignment_eq_lift (now : Timestamp) (relation : Relation) (tree : Tree) :
    assignment now relation tree = lift (change <$> relation.assignment now tree) := by
  obtain ⟨token, lexeme, children⟩ := tree
  rw [assignment, Relation.assignment]
  match children with
  | [] => rfl
  | [_] => rfl
  | name :: literal :: others =>
      dsimp only [List.head?_cons, List.getElem?_cons_succ, List.getElem?_cons_zero]
      rw [map_bind]
      refine bind_eq_lift (columnPlace_eq_lift relation name.lexeme) ?_
      rintro ⟨column, place⟩ found
      rw [lookup_eq_ok (Relation.getElem?_of_column found)]
      simp only [map_bind]
      exact bind_lift_eq_lift fun value _ => bind_lift_eq_lift fun _ _ => rfl

/-- A row after changes that each have a cell. -/
theorem assign_eq_lift {changes : List (Column × Nat × Value)} (suits : relation.Suits changes)
    {row : Row} (wide : row.length = relation.columns.length) :
    ∃ after, assign row (changes.map change) = .ok after ∧ Relation.assign changes row = .ok after := by
  induction changes generalizing row with
  | nil => exact ⟨row, rfl, rfl⟩
  | cons entry changes induction =>
      obtain ⟨column, place, value⟩ := entry
      have inside : place < row.length := by
        rw [wide]
        exact (List.getElem?_eq_some_iff.mp (suits column place value List.mem_cons_self).1).1
      have put : row.put place value = .ok (row.set place value) := Row.put_eq_ok.mpr ⟨inside, rfl⟩
      have narrow : (row.set place value).length = relation.columns.length := by
        rw [List.length_set, wide]
      obtain ⟨after, looked, made⟩ := induction
        (fun column place value member => suits column place value (List.mem_cons_of_mem _ member))
        narrow
      refine ⟨after, ?_, ?_⟩
      · rw [List.map_cons, assign, store_eq_ok inside]
        exact looked
      · rw [Relation.assign, List.foldlM_cons]
        change (row.put place value >>= _) = _
        rw [put]
        exact made

theorem noteChanges_eq_lift {changes : List (Column × Nat × Value)}
    (suits : relation.Suits changes) (numbering : Numbering) :
    noteChanges relation numbering (changes.map change) =
      lift (Relation.noteChanges numbering changes) := by
  induction changes generalizing numbering with
  | nil => rfl
  | cons entry changes induction =>
      obtain ⟨column, place, value⟩ := entry
      have there := (suits column place value List.mem_cons_self).1
      have others := induction fun column place value member =>
        suits column place value (List.mem_cons_of_mem _ member)
      rw [List.map_cons, noteChanges, lookup_eq_ok there, Relation.noteChanges, List.foldlM_cons]
      have noted : (if column.autoincrement then lift (numbering.note value) else .ok numbering) =
          lift (if column.autoincrement then numbering.note value else .ok numbering) :=
        ite_eq_lift (fun _ => rfl) fun _ => rfl
      change (if column.autoincrement then lift (numbering.note value) else .ok numbering) >>= _ = _
      rw [noted]
      exact bind_lift_eq_lift fun after _ => others after

theorem mark_eq_lift {predicate : Predicate} {width : Nat} (within : predicate.Within width)
    {rows : List Row} (wide : ∀ row ∈ rows, row.length = width) :
    mark predicate rows = lift (predicate.mark rows) := by
  refine mapM_lift fun row member => ?_
  obtain rfl := wide row member
  rw [holds_eq_lift within]
  exact bind_lift_eq_lift fun _ _ => rfl

/-- Two steps and what follows them, with the results of the steps as a pair. -/
theorem bind_pair {α β γ : Type} (first : Except Error α) (second : α → Except Error β)
    (next : α → β → Except Error γ) :
    ((first >>= fun value => return (value, ← second value)) >>= fun made =>
        next made.1 made.2) =
      first >>= fun value => second value >>= fun result => next value result := by
  simp only [bind_assoc, pure_bind]

/-- A marked row after changes, and any other row as it is. -/
def changeMarked (changes : List (Column × Nat × Value)) : Row × Bool → Except Error Row
  | (row, chosen) => if chosen then Relation.assign changes row else .ok row

/-- To change rows one after the other comes to the same as to mark all of them first. -/
theorem changeRows_eq_lift {predicate : Predicate}
    (within : predicate.Within relation.columns.length) {changes : List (Column × Nat × Value)}
    (suits : relation.Suits changes) {rows : List Row}
    (wide : ∀ row ∈ rows, row.length = relation.columns.length) :
    changeRows predicate (changes.map change) rows =
      lift ((fun made => (made.2, made.1.countP (·.2))) <$> (do
        let marked ← predicate.mark rows
        return (marked, ← marked.mapM (changeMarked changes)))) := by
  induction rows with
  | nil => rfl
  | cons row rows induction =>
      obtain ⟨here, there⟩ := List.forall_mem_cons.mp wide
      have marks : predicate.mark (row :: rows) = (do
          let chosen ← predicate.holds row
          return (row, chosen) :: (← predicate.mark rows)) := by
        simp only [Predicate.mark, List.mapM_cons, bind_assoc, pure_bind]
      rw [changeRows, holds_eq_lift (here ▸ within), marks]
      cases predicate.holds row with
      | error error => rfl
      | ok chosen =>
          -- A row that is changed always can be, so that nothing is lost by marking the others first.
          obtain ⟨after, looked, made⟩ : ∃ after,
              (if chosen then assign row (changes.map change) else .ok row) = .ok after ∧
                changeMarked changes (row, chosen) = .ok after := by
            cases chosen with
            | true => exact assign_eq_lift suits here
            | false => exact ⟨row, rfl, rfl⟩
          change (if chosen then assign row (changes.map change) else .ok row) >>= _ = _
          rw [looked]
          change (changeRows predicate (changes.map change) rows >>= _) = _
          rw [induction there]
          cases predicate.mark rows with
          | error error => rfl
          | ok marked =>
              change lift (_ <$> (marked.mapM (changeMarked changes) >>= fun after =>
                pure (marked, after))) >>= _ =
                  lift (_ <$> (((row, chosen) :: marked).mapM (changeMarked changes) >>= _))
              rw [List.mapM_cons, made]
              cases marked.mapM (changeMarked changes) with
              | error error => rfl
              | ok rows =>
                  refine congrArg (fun count => Except.ok (after :: rows, count)) ?_
                  rw [List.countP_cons]
                  cases chosen <;> rfl

/-! ## Statements have all that they look at -/

variable {database : Database}

theorem wide_of_relation (sound : database.Sound) {name : String}
    (found : database.relation name = .ok relation) :
    ∀ row ∈ relation.rows, row.length = relation.columns.length := fun row member =>
  ((sound name relation (Database.relation_eq_ok.mp found)).2.rows_fit row member).length_eq

theorem runInsert_eq_lift (sound : database.Sound) (now : Timestamp) (tree : Tree) :
    runInsert now database tree = lift (database.runInsert now tree) := by
  unfold runInsert Database.runInsert
  cases (tree.find? .into).bind Tree.onlyChild? with
  | none => rfl
  | some into =>
      obtain ⟨token, name, children⟩ := into
      by_cases named : token = .identifier
      · subst named
        refine bind_lift_eq_lift fun values _ => bind_lift_eq_lift fun relation found => ?_
        refine bind_eq_lift (targets_eq_lift relation children) fun targets listed => ?_
        rw [newRows_eq_lift (fun _ _ => Relation.getElem?_of_targets listed)
          (nodup_of_targets listed)]
        refine bind_lift_eq_lift fun made _ => ?_
        obtain ⟨rows, numbering⟩ := made
        dsimp only
        rw [insertAll_eq_lift (wide_of_relation sound found)]
        exact bind_lift_eq_lift fun _ _ => rfl
      · cases token <;> first | exact absurd rfl named | rfl

theorem runUpdate_eq_lift (sound : database.Sound) (now : Timestamp) (tree : Tree) :
    runUpdate now database tree = lift (database.runUpdate now tree) := by
  refine bind_lift_eq_lift fun name _ => bind_lift_eq_lift fun set _ =>
    bind_lift_eq_lift fun relation found => ?_
  rw [compileClause_eq_lift]
  refine bind_lift_eq_lift fun predicate compiled => ?_
  refine bind_eq_lift (mapM_eq_lift fun tree _ => assignment_eq_lift now relation tree)
    fun changes assigned => ?_
  have suits := Relation.suits_of_assignments assigned
  have within := Predicate.within_of_ofClause compiled
  have wide := wide_of_relation sound found
  refine (bind_eq_lift (changeRows_eq_lift within suits wide) ?_).trans
    (congrArg lift (bind_pair _ _ _))
  rintro ⟨marked, rows⟩ made
  simp only [Checked.bind_eq_ok, Checked.pure_eq_ok, Prod.mk.injEq] at made
  obtain ⟨_, marks, _, done, rfl, rfl⟩ := made
  have conforms := (sound name relation (Database.relation_eq_ok.mp found)).2
  have fit := conforms.fits_of_changed suits marks done
  refine ite_eq_lift (fun _ => rfl) fun _ => ?_
  rw [noteChanges_eq_lift suits]
  refine bind_lift_eq_lift fun numbering _ => ?_
  rw [replaceRows_eq_lift fun row member => (fit row member).length_eq]
  exact bind_lift_eq_lift fun _ _ => rfl

theorem runDelete_eq_lift (sound : database.Sound) (now : Timestamp) (tree : Tree) :
    runDelete now database tree = lift (database.runDelete now tree) := by
  refine bind_lift_eq_lift fun source _ => bind_lift_eq_lift fun name _ =>
    bind_lift_eq_lift fun relation found => ?_
  rw [compileClause_eq_lift]
  refine bind_lift_eq_lift fun predicate compiled => ?_
  rw [mark_eq_lift (Predicate.within_of_ofClause compiled) (wide_of_relation sound found)]
  exact bind_lift_eq_lift fun _ _ => rfl

end Guarded
end SqlEngine
