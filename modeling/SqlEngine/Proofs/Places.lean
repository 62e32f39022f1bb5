import SqlEngine.Execution.Run
import SqlEngine.Proofs.Mentions

/-!
# No cell is missed

Predicates, keys, orders and changes look for cells by their places.  In a table that conforms to
its schema each row has a cell in every place that they look at, so that no statement goes beyond
the end of a row, and the only errors are those that a session is told about.
-/

namespace SqlEngine

/-- Whether a session is told about an error.  None is told that a row has no cell where it should have
one, and of what cuts a run short nothing is told at all. -/
@[simp]
def Error.IsTold : Error → Prop
  | noCell _ | broken => False
  | _ => True

theorem Error.IsTold.isCrash_eq {error : Error} (told : error.IsTold) : error.isCrash = false := by
  cases error <;> first | rfl | cases told

/-- Whether a computation does not look for a cell that a row does not have, and only fails with
errors that a session is told about. -/
def Orderly {α : Type} (outcome : Except Error α) : Prop :=
  Checked.Raises Error.IsTold outcome

namespace Orderly

variable {α β σ : Type}

theorem iff_raises {outcome : Except Error α} :
    Orderly outcome ↔ Checked.Raises Error.IsTold outcome :=
  Iff.rfl

@[simp]
theorem ok (value : α) : Orderly (.ok value) := by
  simp [Orderly]

@[simp]
theorem pure (value : α) : Orderly (Pure.pure value) :=
  ok value

@[simp]
theorem error_iff {error : Error} :
    Orderly (.error error : Except Error α) ↔ error.IsTold := by
  simp [Orderly]

@[simp]
theorem bind_iff {first : Except Error α} {next : α → Except Error β} :
    Orderly (first >>= next) ↔
      Orderly first ∧ ∀ value, first = .ok value → Orderly (next value) := by
  simp only [iff_raises, Checked.Raises.bind_iff]

@[simp]
theorem map_iff {change : α → β} {outcome : Except Error α} :
    Orderly (change <$> outcome) ↔ Orderly outcome := by
  simp only [iff_raises, Checked.Raises.map_iff]

theorem mapM {check : α → Except Error β} {items : List α}
    (each : ∀ item ∈ items, Orderly (check item)) : Orderly (items.mapM check) := by
  simp only [iff_raises] at each ⊢
  exact Checked.Raises.mapM each

theorem forM {check : α → Except Error Unit} {items : List α}
    (each : ∀ item ∈ items, Orderly (check item)) : Orderly (items.forM check) := by
  simp only [iff_raises] at each ⊢
  exact Checked.Raises.forM each

/-- A fold is orderly if every step is, from any state that the steps keep to. -/
theorem foldlM (kept : σ → Prop) {step : σ → α → Except Error σ} {items : List α}
    (each : ∀ item ∈ items, ∀ state, kept state → Orderly (step state item) ∧
      ∀ after, step state item = .ok after → kept after)
    {start : σ} (first : kept start) : Orderly (items.foldlM step start) := by
  simp only [iff_raises] at each ⊢
  exact Checked.Raises.foldlM_of_kept kept each first

end Orderly

/-! ## Literals and columns -/

@[simp]
theorem ColumnType.orderly_coerce (type : ColumnType) (value : Value) :
    Orderly (type.coerce value) := by
  unfold coerce
  repeat' split
  all_goals simp

@[simp]
theorem ColumnType.orderly_ofName (name : String) (length : Option Nat) :
    Orderly (ofName name length) := by
  simp only [ofName]
  split <;> simp

namespace Tree

@[simp]
theorem orderly_literalValue (now : Timestamp) (tree : Tree) :
    Orderly (tree.literalValue now) := by
  simp only [literalValue, numberValue]
  repeat' split
  all_goals simp

@[simp]
theorem orderly_identifier (node : Option Tree) (of : String) : Orderly (identifier node of) := by
  unfold identifier
  split <;> simp

@[simp]
theorem orderly_typedValue (now : Timestamp) (type : ColumnType) (tree : Tree) :
    Orderly (tree.typedValue now type) := by
  simp [typedValue]

@[simp]
theorem orderly_require {α : Type} (part : Option α) (fault : TreeFault) :
    Orderly (require part fault) := by
  unfold require
  split <;> simp

end Tree

namespace Column

@[simp]
theorem orderly_checkNull (column : Column) (value : Value) : Orderly (column.checkNull value) := by
  unfold checkNull
  split <;> simp

@[simp]
theorem orderly_constrain (now : Timestamp) (column : Column) (tree : Tree) :
    Orderly (column.constrain now tree) := by
  unfold constrain
  split <;> simp

@[simp]
theorem orderly_ofTree (now : Timestamp) (tree : Tree) : Orderly (ofTree now tree) := by
  have type (tree : Tree) : Orderly (typeOfTree tree) := by
    unfold typeOfTree
    repeat' split
    all_goals simp
  have constraints (trees : List Tree) (column : Column) :
      Orderly (trees.foldlM (constrain now) column) :=
    Orderly.foldlM (fun _ => True) (fun _ _ _ _ => ⟨by simp, fun _ _ => trivial⟩) trivial
  have numbering (column : Column) : Orderly column.checkNumbering := by
    unfold checkNumbering
    split <;> simp
  simp only [ofTree]
  repeat' split
  all_goals simp [type, constraints, numbering]

@[simp]
theorem orderly_listOfTrees (now : Timestamp) (seen : List String) (trees : List Tree) :
    Orderly (listOfTrees now seen trees) := by
  induction trees generalizing seen with
  | nil => simp [listOfTrees]
  | cons tree trees induction =>
      simp only [listOfTrees]
      simp only [Orderly.bind_iff, orderly_ofTree, true_and]
      intro column _
      split <;> simp [induction]

end Column

/-! ## New rows -/

@[simp]
theorem Database.orderly_relation (database : Database) (name : String) :
    Orderly (database.relation name) := by
  unfold Database.relation
  split <;> simp

namespace Numbering

@[simp]
theorem orderly_note (numbering : Numbering) (value : Value) : Orderly (numbering.note value) := by
  unfold note
  split
  · unfold advance
    split <;> simp
  · simp

@[simp]
theorem orderly_row (numbering : Numbering) (entries : List (Column × Option Value)) :
    Orderly (numbering.row entries) := by
  have cell (numbering : Numbering) (column : Column) (given : Option Value) :
      Orderly (numbering.cell column given) := by
    unfold Numbering.cell
    repeat' split
    all_goals simp
  induction entries generalizing numbering with
  | nil => simp [row]
  | cons entry entries induction =>
      obtain ⟨column, given⟩ := entry
      simp [row, cell, induction]

end Numbering

namespace Relation

@[simp]
theorem orderly_column (relation : Relation) (name : String) : Orderly (relation.column name) := by
  unfold Relation.column
  split <;> simp

@[simp]
theorem orderly_targets (relation : Relation) (names : List Tree) :
    Orderly (relation.targets names) := by
  have named (names : List Tree) (seen : List Nat) :
      Orderly (targets.named relation seen names) := by
    induction names generalizing seen with
    | nil => simp [targets.named]
    | cons name names induction =>
        simp only [targets.named, Orderly.bind_iff, orderly_column, true_and]
        intro target _
        split <;> simp [induction]
  unfold targets
  split
  · simp
  · exact named names []

@[simp]
theorem orderly_newRows (now : Timestamp) (relation : Relation) (targets : List (Column × Nat))
    (numbering : Numbering) (tuples : List Tree) :
    Orderly (relation.newRows now targets numbering tuples) := by
  have given (literals : List Tree) : Orderly (givenValues now targets literals) :=
    Orderly.mapM fun _ _ => by simp
  induction tuples generalizing numbering with
  | nil => simp [newRows]
  | cons tuple tuples induction =>
      simp only [newRows]
      split <;> simp [given, induction]

@[simp]
theorem orderly_assignment (now : Timestamp) (relation : Relation) (tree : Tree) :
    Orderly (relation.assignment now tree) := by
  unfold assignment
  split <;> simp

@[simp]
theorem orderly_noteChanges (numbering : Numbering) (changes : List (Column × Nat × Value)) :
    Orderly (noteChanges numbering changes) := by
  refine Orderly.foldlM (fun _ => True) ?_ trivial
  rintro ⟨column, place, value⟩ _ numbering _
  refine ⟨?_, fun _ _ => trivial⟩
  dsimp only
  split <;> simp

end Relation

/-! ## Cells of rows -/

theorem Row.orderly_cell {row : Row} {place : Nat} (inside : place < row.length) :
    Orderly (row.cell place) := by
  simp [cell, inside]

theorem orderly_checkDistinct {column : Column} {place : Nat} {seen : List String}
    {rows : List Row} (inside : ∀ row ∈ rows, place < row.length) :
    Orderly (checkDistinct column place seen rows) := by
  induction rows generalizing seen with
  | nil => simp [checkDistinct]
  | cons row rows induction =>
      obtain ⟨here, others⟩ := List.forall_mem_cons.mp inside
      simp only [checkDistinct, Orderly.bind_iff, Row.orderly_cell here, true_and]
      intro value _
      repeat' split
      all_goals simp [induction others]

namespace Relation

variable {relation : Relation}

theorem orderly_checkUnique {rows : List Row}
    (wide : ∀ row ∈ rows, row.length = relation.columns.length) :
    Orderly (relation.checkUnique rows) := by
  refine Orderly.forM ?_
  rintro ⟨column, place⟩ member
  have inside := (List.getElem?_eq_some_iff.mp (List.mk_mem_zipIdx_iff_getElem?.mp member)).1
  dsimp only
  split
  · exact orderly_checkDistinct fun row member => (wide row member) ▸ inside
  · simp

theorem orderly_assign {changes : List (Column × Nat × Value)} (suits : relation.Suits changes)
    {row : Row} (wide : row.length = relation.columns.length) :
    Orderly (assign changes row) := by
  refine Orderly.foldlM (fun row => row.length = relation.columns.length) ?_ wide
  rintro ⟨column, place, value⟩ member row wide
  have inside := (List.getElem?_eq_some_iff.mp (suits column place value member).1).1
  refine ⟨?_, fun after put => ?_⟩
  · simp [Row.put, wide, inside]
  · obtain ⟨-, rfl⟩ := Row.put_eq_ok.mp put
    simpa using wide

end Relation

/-! ## Predicates -/

namespace Predicate

mutual

/-- Whether a predicate looks only at cells that rows of a given width have. -/
def Within (width : Nat) : Predicate → Prop
  | all conditions => AllWithin width conditions
  | any conditions => AllWithin width conditions
  | compare place _ _ => place < width
  | like place _ => place < width
  | isIn place _ => place < width
  | isNull place => place < width
  | isNotNull place => place < width

/-- Whether several predicates look only at cells that rows of a given width have. -/
def AllWithin (width : Nat) : List Predicate → Prop
  | [] => True
  | condition :: conditions => Within width condition ∧ AllWithin width conditions

end

variable {now : Timestamp} {relation : Relation}

mutual

theorem within_of_places {width : Nat} {predicate : Predicate}
    (inside : ∀ place ∈ predicate.places, place < width) : predicate.Within width := by
  cases predicate with
  | all conditions => exact allWithin_of_places inside
  | any conditions => exact allWithin_of_places inside
  | compare place _ _ => exact inside place List.mem_cons_self
  | like place _ => exact inside place List.mem_cons_self
  | isIn place _ => exact inside place List.mem_cons_self
  | isNull place => exact inside place List.mem_cons_self
  | isNotNull place => exact inside place List.mem_cons_self

theorem allWithin_of_places {width : Nat} {conditions : List Predicate}
    (inside : ∀ place ∈ placesOfAll conditions, place < width) : AllWithin width conditions := by
  cases conditions with
  | nil => trivial
  | cons condition conditions =>
      obtain ⟨first, others⟩ := List.forall_mem_append.mp inside
      exact ⟨within_of_places first, allWithin_of_places others⟩

end

mutual

/-- A predicate of a table does not miss a cell of its rows. -/
theorem orderly_holds {row : Row} {predicate : Predicate} (within : predicate.Within row.length) :
    Orderly (predicate.holds row) := by
  cases predicate with
  | all conditions => exact orderly_allHold within
  | any conditions => exact orderly_anyHolds within
  | compare place comparison value =>
      simp only [holds, Orderly.bind_iff, Row.orderly_cell within, true_and]
      intro cell _
      unfold comparesWith
      repeat' split
      all_goals simp
  | like place pattern =>
      simp only [holds, Orderly.bind_iff, Row.orderly_cell within, true_and]
      intro cell _
      unfold isLike
      split <;> simp
  | isIn place values => simp [holds, Row.orderly_cell within]
  | isNull place => simp [holds, Row.orderly_cell within]
  | isNotNull place => simp [holds, Row.orderly_cell within]

theorem orderly_allHold {row : Row} {conditions : List Predicate}
    (within : AllWithin row.length conditions) : Orderly (allHold row conditions) := by
  cases conditions with
  | nil => simp [allHold]
  | cons condition conditions =>
      simp only [allHold, Orderly.bind_iff, orderly_holds within.1, true_and]
      intro met _
      split
      · exact orderly_allHold within.2
      · simp

theorem orderly_anyHolds {row : Row} {conditions : List Predicate}
    (within : AllWithin row.length conditions) : Orderly (anyHolds row conditions) := by
  cases conditions with
  | nil => simp [anyHolds]
  | cons condition conditions =>
      simp only [anyHolds, Orderly.bind_iff, orderly_holds within.1, true_and]
      intro met _
      split
      · simp
      · exact orderly_anyHolds within.2

end

mutual

@[simp]
theorem orderly_ofTree (now : Timestamp) (relation : Relation) (tree : Tree) :
    Orderly (ofTree now relation tree) := by
  have subject (lexeme : String) (children : List Tree) :
      Orderly (subject relation lexeme children) := by
    unfold Predicate.subject
    split <;> simp
  have operand (column : Column) (tree : Tree) : Orderly (operand now column tree) := by
    simp only [Predicate.operand, Orderly.bind_iff, Tree.orderly_literalValue, true_and]
    intro value _
    split <;> simp
  obtain ⟨token, lexeme, children⟩ := tree
  unfold ofTree
  split
  · simp [orderly_ofTrees now relation children]
  · simp [orderly_ofTrees now relation children]
  · simp [ofNullTest, subject]
  · simp [ofNullTest, subject]
  · simp only [ofIn, Orderly.bind_iff, subject, true_and]
    intro found _
    simp [Orderly.mapM fun tree _ => operand found.1.1 tree]
  · simp only [ofLike, Orderly.bind_iff, subject, true_and]
    intro found _
    split
    · simp
    · simp only [Orderly.bind_iff, Tree.orderly_literalValue, true_and]
      intro value _
      split <;> simp
  · split
    · simp only [ofComparison, Orderly.bind_iff, subject, true_and]
      intro found _
      split <;> simp [operand]
    · simp

theorem orderly_ofTrees (now : Timestamp) (relation : Relation) (trees : List Tree) :
    Orderly (ofTrees now relation trees) := by
  cases trees with
  | nil => simp [ofTrees]
  | cons tree trees =>
      simp [ofTrees, orderly_ofTree now relation tree, orderly_ofTrees now relation trees]

end

@[simp]
theorem orderly_ofClause (now : Timestamp) (relation : Relation) (clause : Option Tree) :
    Orderly (ofClause now relation clause) := by
  unfold ofClause
  repeat' split
  all_goals simp

/-- The predicate of a clause looks only at columns of its table. -/
theorem within_of_ofClause {clause : Option Tree} {predicate : Predicate}
    (done : ofClause now relation clause = .ok predicate) :
    predicate.Within relation.columns.length := by
  refine within_of_places fun place looked => ?_
  obtain ⟨tree, -, named⟩ := named_of_ofClause done looked
  exact named.lt

theorem orderly_mark {predicate : Predicate} {width : Nat} (within : predicate.Within width)
    {rows : List Row} (wide : ∀ row ∈ rows, row.length = width) :
    Orderly (predicate.mark rows) := by
  refine Orderly.mapM fun row member => ?_
  obtain rfl := wide row member
  simp [orderly_holds within]

end Predicate

/-! ## Answers to queries -/

/-- Whether what is shown of rows is there in rows of a given width. -/
def Projection.Within (width : Nat) : Projection → Prop
  | columns chosen => ∀ entry ∈ chosen, entry.2 < width
  | count => True

namespace Projection

variable {relation : Relation} {tree : Tree} {projection : Projection}

@[simp]
theorem orderly_ofTree (relation : Relation) (tree : Tree) : Orderly (ofTree relation tree) := by
  unfold ofTree
  split
  · simp
  · simp
  · simp [Orderly.mapM]
  · simp

theorem within_of_ofTree (done : ofTree relation tree = .ok projection) :
    projection.Within relation.columns.length := by
  unfold ofTree at done
  split at done
  · obtain rfl := Except.ok.inj done
    rintro ⟨column, place⟩ member
    exact (List.getElem?_eq_some_iff.mp (List.mk_mem_zipIdx_iff_getElem?.mp member)).1
  · obtain rfl := Except.ok.inj done
    trivial
  · simp only [Checked.bind_eq_ok, Checked.pure_eq_ok] at done
    obtain ⟨chosen, found, rfl⟩ := done
    rintro ⟨column, place⟩ member
    obtain ⟨named, -, here⟩ :=
      Checked.exists_of_mem_right (Checked.mapM_eq_ok.mp found) member
    exact (List.getElem?_eq_some_iff.mp (Relation.getElem?_of_column here)).1
  · contradiction

theorem orderly_cells {width : Nat} (within : projection.Within width) {rows : List Row}
    (wide : ∀ row ∈ rows, row.length = width) : Orderly (projection.cells rows) := by
  cases projection with
  | count => simp [cells]
  | columns chosen =>
      refine Orderly.mapM fun row member => Orderly.mapM fun entry listed => ?_
      obtain rfl := wide row member
      simp [Row.orderly_cell (within entry listed)]

/-- Every row that is shown has a cell under each name of the header. -/
theorem length_of_mem_cells {rows : List Row} {shown : List (List (Option String))}
    (done : projection.cells rows = .ok shown) {row : List (Option String)} (member : row ∈ shown) :
    row.length = projection.header.length := by
  cases projection with
  | count =>
      obtain rfl := Except.ok.inj done
      obtain rfl := List.mem_singleton.mp member
      rfl
  | columns chosen =>
      obtain ⟨from_row, -, made⟩ :=
        Checked.exists_of_mem_right (Checked.mapM_eq_ok.mp done) member
      simpa [header] using (Checked.mapM_eq_ok.mp made).length_eq.symm

end Projection

theorem orderly_sortRows {relation : Relation} {rows : List Row}
    (wide : ∀ row ∈ rows, row.length = relation.columns.length) (clause : Option Tree) :
    Orderly (sortRows relation rows clause) := by
  unfold sortRows
  split
  · simp
  · simp only [Orderly.bind_iff, Tree.orderly_require, Relation.orderly_column, true_and]
    rintro named - ⟨column, place⟩ found
    have inside := (List.getElem?_eq_some_iff.mp (Relation.getElem?_of_column found)).1
    refine ⟨Orderly.mapM fun row member => ?_, by simp⟩
    simp [Row.orderly_cell ((wide row member).symm ▸ inside)]

/-- Sorting does not make up rows. -/
theorem mem_of_mem_sortRows {relation : Relation} {rows sorted : List Row} {clause : Option Tree}
    (done : sortRows relation rows clause = .ok sorted) {row : Row} (member : row ∈ sorted) :
    row ∈ rows := by
  unfold sortRows at done
  split at done
  · obtain rfl := Except.ok.inj done
    exact member
  · simp only [Checked.bind_eq_ok, Checked.pure_eq_ok] at done
    obtain ⟨named, -, ⟨column, place⟩, -, keyed, taken, rfl⟩ := done
    obtain ⟨entry, listed, rfl⟩ := List.mem_map.mp member
    obtain ⟨source, inside, made⟩ := Checked.exists_of_mem_right (Checked.mapM_eq_ok.mp taken)
      (List.mem_mergeSort.mp listed)
    simp only [Checked.bind_eq_ok, Checked.pure_eq_ok] at made
    obtain ⟨cell, -, rfl⟩ := made
    exact inside

/-! ## Statements -/

namespace Database

variable {database : Database}

theorem orderly_runCreate (now : Timestamp) (database : Database) (tree : Tree) :
    Orderly (database.runCreate now tree) := by
  have create (relation : Relation) : Orderly (database.create relation) := by
    unfold Database.create
    split <;> simp
  have table (target : Tree) : Orderly (database.createTable now target) := by
    simp only [createTable, Orderly.bind_iff, Tree.orderly_require, true_and]
    intro named _
    repeat' split
    all_goals simp [create]
  simp only [runCreate, Orderly.bind_iff, Tree.orderly_require, true_and]
  intro target _
  split
  · simp
  · exact table target
  · simp

theorem orderly_runDrop (database : Database) (tree : Tree) : Orderly (database.runDrop tree) := by
  unfold runDrop
  split <;> simp [drop]

theorem orderly_runTruncate (database : Database) (tree : Tree) :
    Orderly (database.runTruncate tree) := by
  unfold runTruncate
  split <;> simp

theorem Sound.orderly_runInsert (sound : database.Sound) (now : Timestamp) (tree : Tree) :
    Orderly (database.runInsert now tree) := by
  have inserted (relation : Relation) (conforms : relation.Sound) (rows : List Row) :
      Orderly (relation.insertAll rows) := by
    simp only [Relation.insertAll]
    split
    · simp
    · rename_i wide
      have unique : Orderly (relation.checkUnique (relation.rows ++ rows)) := by
        refine Relation.orderly_checkUnique fun row member => ?_
        rcases List.mem_append.mp member with old | new
        · exact (conforms.rows_fit row old).length_eq
        · by_contra narrow
          exact wide (List.any_eq_true.mpr ⟨row, new, by simpa using narrow⟩)
      simp [unique]
  simp only [Database.runInsert]
  split
  · simp only [Orderly.bind_iff, Orderly.ok, Tree.orderly_require, orderly_relation,
      Relation.orderly_targets, Relation.orderly_newRows, Orderly.pure, true_and]
    intro into _ values _ relation found targets _ rowed _
    exact ⟨inserted relation (sound _ relation (relation_eq_ok.mp found)).2 rowed.1,
      fun _ _ => trivial⟩
  · simp

theorem Sound.orderly_runUpdate (sound : database.Sound) (now : Timestamp) (tree : Tree) :
    Orderly (database.runUpdate now tree) := by
  have assignments (relation : Relation) (trees : List Tree) :
      Orderly (trees.mapM (relation.assignment now)) :=
    Orderly.mapM fun tree _ => by simp
  simp only [Database.runUpdate, Orderly.bind_iff, Tree.orderly_identifier, Tree.orderly_require,
    orderly_relation, Predicate.orderly_ofClause, assignments, true_and]
  intro name _ set _ relation found predicate compiled changes assigned
  have conforms := (sound name relation (relation_eq_ok.mp found)).2
  have suits := Relation.suits_of_assignments assigned
  refine ⟨Predicate.orderly_mark (Predicate.within_of_ofClause compiled) fun row member =>
    (conforms.rows_fit row member).length_eq, fun marked marks => ⟨Orderly.mapM ?_, ?_⟩⟩
  · rintro ⟨row, chosen⟩ member
    have old : row ∈ relation.rows := by
      rw [← Predicate.map_fst_mark marks]
      exact List.mem_map_of_mem (f := (·.1)) member
    dsimp only
    split
    · exact Relation.orderly_assign suits (conforms.rows_fit row old).length_eq
    · simp
  · intro rows changed
    have fit := conforms.fits_of_changed suits marks changed
    have replaced : Orderly (relation.replaceRows rows) := by
      simp [Relation.replaceRows,
        Relation.orderly_checkUnique fun row member => (fit row member).length_eq]
    split <;> simp [replaced]

theorem Sound.orderly_runDelete (sound : database.Sound) (now : Timestamp) (tree : Tree) :
    Orderly (database.runDelete now tree) := by
  simp only [Database.runDelete, Orderly.bind_iff, Tree.orderly_require, Tree.orderly_identifier,
    orderly_relation, Predicate.orderly_ofClause, Orderly.pure, implies_true, and_true, true_and]
  intro source _ name _ relation found predicate compiled
  have conforms := (sound name relation (relation_eq_ok.mp found)).2
  exact Predicate.orderly_mark (Predicate.within_of_ofClause compiled) fun row member =>
    (conforms.rows_fit row member).length_eq

theorem Sound.orderly_runSelect (sound : database.Sound) (now : Timestamp) (tree : Tree) :
    Orderly (database.runSelect now tree) := by
  have count (clause : Option Tree) : Orderly (rowCount clause) := by
    unfold rowCount
    split
    · simp
    · simp only [Orderly.bind_iff, Tree.orderly_require, true_and]
      intro number _
      split <;> simp
  simp only [Database.runSelect, Orderly.bind_iff, Tree.orderly_require, Tree.orderly_identifier,
    orderly_relation, Projection.orderly_ofTree, Predicate.orderly_ofClause, Orderly.pure, count,
    implies_true, and_true, true_and]
  intro source _ name _ relation found chosen _ projection projected predicate compiled
  have conforms := (sound name relation (relation_eq_ok.mp found)).2
  refine ⟨Predicate.orderly_mark (Predicate.within_of_ofClause compiled) fun row member =>
    (conforms.rows_fit row member).length_eq, fun marked marks => ?_⟩
  have wide : ∀ row ∈ (marked.filter (·.2)).map (·.1), row.length = relation.columns.length := by
    intro row member
    obtain ⟨entry, listed, rfl⟩ := List.mem_map.mp member
    refine (conforms.rows_fit entry.1 ?_).length_eq
    rw [← Predicate.map_fst_mark marks]
    exact List.mem_map_of_mem (f := (·.1)) (List.mem_filter.mp listed).1
  refine ⟨orderly_sortRows wide _, fun sorted ordered => ?_⟩
  exact Projection.orderly_cells (Projection.within_of_ofTree projected) fun row member =>
    wide row (mem_of_mem_sortRows ordered member)

/-- No statement goes beyond the end of a row of a conforming database. -/
theorem Sound.orderly_execute (sound : database.Sound) (now : Timestamp) (tree : Tree) :
    Orderly (database.execute now tree) := by
  unfold Database.execute
  split
  · exact orderly_runCreate now database tree
  · exact orderly_runDrop database tree
  · exact orderly_runTruncate database tree
  · exact sound.orderly_runInsert now tree
  · exact sound.orderly_runUpdate now tree
  · exact sound.orderly_runDelete now tree
  · simp [sound.orderly_runSelect]
  all_goals simp

end Database
end SqlEngine
