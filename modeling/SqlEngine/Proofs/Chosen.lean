import SqlEngine.Proofs.Numbering
import SqlEngine.Proofs.Queries
import SqlEngine.Proofs.WellTyped

/-!
# The rows that a condition chooses

Queries, deletions and updates first survey their table: they find it, make a predicate of their
condition, and mark every row that meets it.  So they choose the same rows, and fail in the same way
where the survey does.
-/

namespace SqlEngine

namespace Tree

/-- Whether a tree is a statement of a kind about the rows of a table that meet a clause. -/
structure Concerns (tree : Tree) (kind : Token) (name : String) (clause : Option Tree) : Prop where
  /-- The root says which kind of statement it is. -/
  token : tree.token = kind
  /-- It is about the table. -/
  target : tree.target? = some name
  /-- It has the clause, or none. -/
  condition : tree.find? .whereClause = clause

/-- Whether a tree is a query of the rows of a table that meet a clause, as they are stored, and
shows of them what one node says. -/
structure Asks (tree : Tree) (shown : Token) (name : String) (clause : Option Tree) : Prop where
  /-- It is a query about the rows. -/
  concerns : tree.Concerns .select name clause
  /-- One node says what is shown. -/
  projection : ∃ chosen node, tree.find? .projection = some chosen ∧ chosen.children = [node] ∧
    node.token = shown
  /-- No order is asked for, and no part of the answer. -/
  plain : ∀ token ∈ [Token.order, .limit, .offset], tree.find? token = none

end Tree

namespace Projection

theorem ofTree_count (relation : Relation) (chosen node : Tree) (only : chosen.children = [node])
    (kind : node.token = .count) : ofTree relation chosen = .ok count := by
  obtain ⟨token, lexeme, children⟩ := node
  obtain rfl : token = .count := kind
  rw [ofTree, only]

theorem ofTree_star (relation : Relation) (chosen node : Tree) (only : chosen.children = [node])
    (kind : node.token = .star) :
    ofTree relation chosen = .ok (columns relation.columns.zipIdx) := by
  obtain ⟨token, lexeme, children⟩ := node
  obtain rfl : token = .star := kind
  rw [ofTree, only]

/-- All columns of rows that are wide enough are the rows. -/
theorem cells_zipIdx {columns : List Column} {rows : List Row}
    (wide : ∀ row ∈ rows, row.length = columns.length) :
    (Projection.columns columns.zipIdx).cells rows =
      .ok (rows.map fun row => row.map Value.cell?) := by
  refine cells_columns_eq_ok.mpr (List.forall₂_map_right_iff.mpr
    (List.forall₂_same.mpr fun row member => ?_))
  have width := wide row member
  refine List.forall₂_of_length_eq_of_get (by simp [width]) fun place inside inside' => ?_
  have within : place < row.length := by simpa using inside'
  simp [within]

end Projection

theorem Numbering.exists_note (numbering : Numbering) {value : Value}
    (below : value ≠ .integer .maxValue) : ∃ after, numbering.note value = .ok after := by
  unfold note
  split
  · rename_i id
    have higher : id ≠ .maxValue := fun highest => below (congrArg Value.integer highest)
    rw [advance, if_neg higher]
    exact ⟨_, rfl⟩
  · exact ⟨numbering, rfl⟩

namespace Relation

/-- Whether a node assigns a value to the cells of a column, which its type takes from a literal and
where null stands only if it may. -/
inductive Assigns (now : Timestamp) (relation : Relation) : Tree → Column × Nat × Value → Prop where
  /-- The node names the column and has the literal. -/
  | of {tree named literal : Tree} {others : List Tree} {column : Column} {place : Nat}
      {value : Value} (parts : tree.children = named :: literal :: others)
      (here : relation.columns[place]? = some column) (called : named.lexeme = column.name)
      (taken : literal.typedValue now column.type = .ok value)
      (filled : column.isNotNull = true → value ≠ .null) :
      Assigns now relation tree (column, place, value)

/-- Whether a row is another one with values assigned to it: of several in one place the last
counts, and all other cells are as they were. -/
structure Assigned (changes : List (Column × Nat × Value)) (row after : Row) : Prop where
  /-- There are as many cells. -/
  length_eq : after.length = row.length
  /-- A cell that a value is assigned to has it, or a later one. -/
  cells : ∀ front column place value back, changes = front ++ (column, place, value) :: back →
    (∀ change ∈ back, change.2.1 ≠ place) → after[place]? = some value
  /-- The other cells are kept. -/
  kept : ∀ place, (∀ change ∈ changes, change.2.1 ≠ place) → after[place]? = row[place]?

/-- Whether a row is what changes make of another one, if a test chooses it; else it is that one. -/
def Updated (chosen : Row → Bool) (changes : List (Column × Nat × Value)) (row after : Row) :
    Prop :=
  if chosen row then Assigned changes row after else after = row

variable {now : Timestamp} {relation : Relation} {changes : List (Column × Nat × Value)}

/-- A row that has a cell in each of the places can be assigned to. -/
theorem exists_assigned {row : Row} (inside : ∀ change ∈ changes, change.2.1 < row.length) :
    ∃ after, assign changes row = .ok after ∧ Assigned changes row after := by
  induction changes generalizing row with
  | nil => exact ⟨row, rfl, rfl, by simp, fun _ _ => rfl⟩
  | cons change changes induction =>
      obtain ⟨column, place, value⟩ := change
      obtain ⟨first, others⟩ := List.forall_mem_cons.mp inside
      obtain ⟨after, done, length, cells, kept⟩ :=
        @induction (row.set place value) (by simpa using others)
      have put : row.put place value = .ok (row.set place value) := Row.put_eq_ok.mpr ⟨first, rfl⟩
      refine ⟨after, ?_, by simpa using length, ?_, fun target apart => ?_⟩
      · unfold assign
        rw [List.foldlM_cons]
        exact Checked.bind_eq_ok.mpr ⟨_, put, done⟩
      · rintro (_ | ⟨earlier, front⟩) other target last back split apart
        · obtain ⟨⟨rfl, rfl, rfl⟩, rfl⟩ :
              (column = other ∧ place = target ∧ value = last) ∧ changes = back := by
            simpa using split
          rw [kept place apart]
          exact List.getElem?_set_self first
        · exact cells front other target last back (List.cons.inj split).2 apart
      · obtain ⟨here, there⟩ := List.forall_mem_cons.mp apart
        rw [kept target there, List.getElem?_set_ne here]

/-- Rows of a conforming table have a cell in each of the places. -/
theorem Sound.place_lt (sound : relation.Sound) (suits : relation.Suits changes) :
    ∀ row ∈ relation.rows, ∀ change ∈ changes, change.2.1 < row.length := by
  intro row member change changed
  rw [(sound.rows_fit row member).length_eq]
  exact (List.getElem?_eq_some_iff.mp (suits _ _ _ changed).1).1

/-- Rows are updated one by one. -/
theorem exists_updated (chosen : Row → Bool) {rows : List Row}
    (inside : ∀ row ∈ rows, ∀ change ∈ changes, change.2.1 < row.length) :
    ∃ others, ((rows.map fun row => (row, chosen row)).mapM fun (row, chosen) =>
        if chosen then assign changes row else .ok row) = .ok others ∧
      List.Forall₂ (Updated chosen changes) rows others := by
  have each : ∀ row ∈ rows, ∃ after,
      (if chosen row then assign changes row else .ok row) = .ok after ∧
        Updated chosen changes row after := by
    intro row member
    unfold Updated
    split
    · exact exists_assigned (inside row member)
    · exact ⟨row, rfl, rfl⟩
  obtain ⟨others, all⟩ := Checked.exists_forall₂ each
  refine ⟨others, Checked.mapM_eq_ok.mpr ?_, all.imp fun _ _ => And.right⟩
  exact List.forall₂_map_left_iff.mpr (all.imp fun _ _ => And.left)

/-- Rows of which none is chosen stay as they are. -/
theorem eq_of_updated {chosen : Row → Bool} {rows others : List Row}
    (updated : List.Forall₂ (Updated chosen changes) rows others)
    (none : rows.countP chosen = 0) : others = rows := by
  have all : List.Forall₂ Eq others rows := by
    refine ((List.forall₂_and_left _ _).mpr ⟨List.countP_eq_zero.mp none, updated⟩).imp ?_ |>.flip
    rintro row after ⟨other, same⟩
    rwa [Updated, if_neg other] at same
  rwa [List.forall₂_eq_eq_eq] at all

theorem Sound.assignment_eq_ok (sound : relation.Sound) {tree : Tree}
    {change : Column × Nat × Value} (assigns : relation.Assigns now tree change) :
    relation.assignment now tree = .ok change := by
  obtain ⟨parts, here, called, taken, filled⟩ := assigns
  simp only [assignment, parts, called, sound.column_eq_ok here, Checked.bind_eq_ok,
    Checked.pure_eq_ok]
  exact ⟨_, rfl, _, taken, (), Column.checkNull_eq_ok.mpr filled, rfl⟩

/-- The numbering takes note of changes if no number is the highest there is. -/
theorem exists_noteChanges (numbering : Numbering)
    (below : ∀ change ∈ changes, change.1.autoincrement = true →
      change.2.2 ≠ .integer .maxValue) :
    ∃ after, noteChanges numbering changes = .ok after := by
  induction changes generalizing numbering with
  | nil => exact ⟨numbering, rfl⟩
  | cons change changes induction =>
      obtain ⟨column, place, value⟩ := change
      obtain ⟨first, others⟩ := List.forall_mem_cons.mp below
      obtain ⟨middle, noted⟩ : ∃ middle, (if column.autoincrement then numbering.note value
          else .ok numbering) = .ok middle := by
        split
        · exact numbering.exists_note (first ‹_›)
        · exact ⟨numbering, rfl⟩
      obtain ⟨after, rest⟩ := induction middle others
      refine ⟨after, ?_⟩
      unfold noteChanges
      rw [List.foldlM_cons]
      exact Checked.bind_eq_ok.mpr ⟨middle, noted, rest⟩

end Relation

namespace Database

variable {now : Timestamp} {database : Database} {tree : Tree} {name : String}
  {clause : Option Tree}

/-- The table of a name, and its rows, marked if they meet a clause. -/
def survey (now : Timestamp) (database : Database) (name : String) (clause : Option Tree) :
    Except Error (Relation × List (Row × Bool)) := do
  let relation ← database.relation name
  let predicate ← Predicate.ofClause now relation clause
  return (relation, ← predicate.mark relation.rows)

theorem survey_timeless (timeless : ∀ tree, clause = some tree → tree.Timeless)
    (now later : Timestamp) (database : Database) (name : String) :
    database.survey now name clause = database.survey later name clause := by
  simp only [survey, Predicate.ofClause_timeless timeless now later]

theorem exists_source {kind : Token} (from_table : kind = .delete ∨ kind = .select)
    (concerns : tree.Concerns kind name clause) (fault : TreeFault) :
    ∃ source, Tree.require (tree.find? .fromTable) fault = pure source ∧
      Tree.identifier source.onlyChild? "table" = pure name := by
  have target :
      ((tree.find? .fromTable).bind Tree.onlyChild?).bind Tree.identifier? = some name := by
    have target := concerns.target
    unfold Tree.target? at target
    rw [concerns.token] at target
    rcases from_table with rfl | rfl
    · exact target
    · exact target
  obtain ⟨named, found, carries⟩ := Option.bind_eq_some_iff.mp target
  obtain ⟨source, origin, only⟩ := Option.bind_eq_some_iff.mp found
  exact ⟨source, Tree.require_eq_ok.mpr origin,
    Tree.identifier_eq_ok.mpr (Option.bind_eq_some_iff.mpr ⟨named, only, carries⟩)⟩

/-- A deletion keeps the rows that its survey has not marked. -/
theorem execute_of_deletes (concerns : tree.Concerns .delete name clause) :
    database.execute now tree = (do
      let (relation, marked) ← database.survey now name clause
      return (.changed 0 (marked.countP (·.2)),
        database.put { relation with rows := (marked.filter (!·.2)).map (·.1) })) := by
  obtain ⟨source, required, identified⟩ :=
    exists_source (.inl rfl) concerns (.missing "delete" "FROM")
  simp only [Database.execute, concerns.token, runDelete, required, identified, concerns.condition,
    survey, bind_assoc, pure_bind]

/-- A query of stored rows shows those that its survey has marked. -/
theorem execute_of_asks {shown : Token} {projection : Relation → Projection}
    (asks : tree.Asks shown name clause)
    (shows : ∀ (relation : Relation) (chosen node : Tree), chosen.children = [node] →
      node.token = shown → Projection.ofTree relation chosen = .ok (projection relation)) :
    database.execute now tree = (do
      let (relation, marked) ← database.survey now name clause
      let cells ← (projection relation).cells ((marked.filter (·.2)).map (·.1))
      return (.rows (projection relation).header cells, database)) := by
  obtain ⟨concerns, ⟨chosen, node, projects, only, kind⟩, plain⟩ := asks
  obtain ⟨source, required, identified⟩ :=
    exists_source (.inr rfl) concerns (.missing "select" "FROM")
  have chosen_required : Tree.require (tree.find? .projection) (.missing "select" "a projection") =
      pure chosen := Tree.require_eq_ok.mpr projects
  have projected (relation : Relation) :
      Projection.ofTree relation chosen = pure (projection relation) :=
    shows relation chosen node only kind
  have sorted (relation : Relation) (rows : List Row) : sortRows relation rows none = pure rows :=
    rfl
  have uncounted : rowCount none = pure none := rfl
  have no_order := plain .order (by simp)
  have no_limit := plain .limit (by simp)
  have no_offset := plain .offset (by simp)
  simp only [Database.execute, concerns.token, runSelect, required, identified, chosen_required,
    projected, concerns.condition, no_order, no_limit, no_offset, sorted, uncounted, survey,
    bind_assoc, pure_bind, Option.getD_none, List.drop_zero, Option.elim_none]

theorem survey_eq_ok {relation : Relation} {marked : List (Row × Bool)} :
    database.survey now name clause = .ok (relation, marked) ↔
      database.find? name = some relation ∧ ∃ predicate,
        Predicate.ofClause now relation clause = .ok predicate ∧
        predicate.mark relation.rows = .ok marked := by
  simp only [survey, Checked.bind_eq_ok, Checked.pure_eq_ok, Prod.mk.injEq, relation_eq_ok]
  constructor
  · rintro ⟨_, found, predicate, compiled, _, marks, rfl, rfl⟩
    exact ⟨found, predicate, compiled, marks⟩
  · rintro ⟨found, predicate, compiled, marks⟩
    exact ⟨relation, found, predicate, compiled, marked, marks, rfl, rfl⟩

section Surveyed

variable {relation : Relation} {chosen : Row → Bool}
  (surveyed : database.survey now name clause =
    .ok (relation, relation.rows.map fun row => (row, chosen row)))
include surveyed

theorem execute_count (counts : tree.Asks .count name clause) :
    database.execute now tree = .ok
      (.rows ["COUNT(*)"] [[some (toString (relation.rows.countP chosen))]], database) := by
  rw [execute_of_asks counts Projection.ofTree_count, surveyed]
  simp [bind, Except.bind, pure, Except.pure, Projection.cells, Projection.header, List.filter_map,
    Function.comp_def, List.countP_eq_length_filter]

theorem execute_star (sound : relation.Sound) (shows : tree.Asks .star name clause) :
    database.execute now tree = .ok (.rows relation.columnNames
      ((relation.rows.filter chosen).map fun row => row.map Value.cell?), database) := by
  have wide : ∀ row ∈ relation.rows.filter chosen, row.length = relation.columns.length :=
    fun row member => (sound.rows_fit row (List.mem_filter.mp member).1).length_eq
  have found : ((relation.rows.map fun row => (row, chosen row)).filter (·.2)).map (·.1) =
      relation.rows.filter chosen := by
    simp [List.filter_map, Function.comp_def]
  rw [execute_of_asks shows Projection.ofTree_star, surveyed, ← Projection.header_zipIdx]
  refine Checked.bind_eq_ok.mpr ⟨_, rfl, Checked.bind_eq_ok.mpr ⟨_, ?_, rfl⟩⟩
  rw [found]
  exact Projection.cells_zipIdx wide

theorem execute_delete (deletes : tree.Concerns .delete name clause) :
    database.execute now tree = .ok (.changed 0 (relation.rows.countP chosen),
      database.put { relation with rows := relation.rows.filter (!chosen ·) }) := by
  rw [execute_of_deletes deletes, surveyed]
  simp [bind, Except.bind, pure, Except.pure, List.filter_map, List.countP_map,
    Function.comp_def]

/-- An update that its table and its keys allow changes the rows that its survey has marked. -/
theorem execute_update (sound : database.Sound) (updates : tree.Concerns .update name clause)
    {set : Tree} (sets : tree.find? .assignments = some set)
    {changes : List (Column × Nat × Value)}
    (assigns : List.Forall₂ (relation.Assigns now) set.children changes) :
    ∃ rows, List.Forall₂ (Relation.Updated chosen changes) relation.rows rows ∧
      (relation.DistinctKeys rows →
        (0 < relation.rows.countP chosen → ∀ change ∈ changes, change.1.autoincrement = true →
          change.2.2 ≠ .integer .maxValue) →
        ∃ sequence, relation.sequence ≤ sequence ∧ database.execute now tree =
          .ok (.changed 0 (relation.rows.countP chosen),
            database.put { relation with rows, sequence })) := by
  obtain ⟨found, predicate, compiled, marks⟩ := survey_eq_ok.mp surveyed
  obtain ⟨named, conforms⟩ := sound name relation found
  have assigned : set.children.mapM (relation.assignment now) = .ok changes :=
    Checked.mapM_eq_ok.mpr (assigns.imp fun _ _ => conforms.assignment_eq_ok)
  have suits := Relation.suits_of_assignments assigned
  obtain ⟨rows, done, updated⟩ := Relation.exists_updated chosen (conforms.place_lt suits)
  have fit : ∀ row ∈ rows, relation.Fits row := conforms.fits_of_changed suits marks done
  have target : Tree.identifier tree.children.head? "table" = .ok name := by
    have target := updates.target
    unfold Tree.target? at target
    rw [updates.token] at target
    exact Tree.identifier_eq_ok.mpr target
  refine ⟨rows, updated, fun distinct below => ?_⟩
  have unique : relation.checkUnique rows = .ok () :=
    (Relation.checkUnique_eq_ok fun row member => (fit row member).length_eq).mpr distinct
  have counted : (relation.rows.map fun row => (row, chosen row)).countP (·.2) =
      relation.rows.countP chosen := by
    rw [List.countP_map]
    rfl
  simp only [Database.execute, updates.token, Database.runUpdate, Checked.bind_eq_ok]
  rcases Nat.eq_zero_or_pos (relation.rows.countP chosen) with none | some
  · refine ⟨relation.sequence, Int64.le_refl _, name, target, set, Tree.require_eq_ok.mpr sets,
      relation, relation_eq_ok.mpr found, predicate, updates.condition ▸ compiled, changes,
      assigned, _, marks, rows, done, ?_⟩
    have stays : database.put relation = database := put_find? (by rw [named, found])
    rw [counted, if_pos none, none, Relation.eq_of_updated updated none]
    exact congrArg (fun after => Except.ok (Reply.changed 0 0, after)) stays.symm
  · obtain ⟨numbering, noted⟩ := Relation.exists_noteChanges ⟨relation.sequence, 0⟩ (below some)
    refine ⟨numbering.sequence, (Relation.lt_of_noteChanges noted).1, name, target, set,
      Tree.require_eq_ok.mpr sets, relation, relation_eq_ok.mpr found, predicate,
      updates.condition ▸ compiled, changes, assigned, _, marks, rows, done, ?_⟩
    rw [counted, if_neg (Nat.ne_of_gt some)]
    exact Checked.bind_eq_ok.mpr ⟨numbering, noted, Checked.bind_eq_ok.mpr
      ⟨_, Relation.replaceRows_eq_ok.mpr ⟨unique, rfl⟩, rfl⟩⟩

end Surveyed

/-- Behind every history, the rows that meet a clause are the same to a query, a deletion and an
update.  A count and a deletion tell the same number of them, or fail with the same error.  A
deletion that succeeds keeps the other rows than a query of all columns shows, as they were; and an
update with values that their columns take, which leaves no value twice and gives no row the highest
number in a column that numbers its rows, changes these rows, of each only the cells that it assigns
to, and tells their number. -/
theorem clause_chooses_same_rows_after_calls (history : List (Timestamp × Call))
    {clause : Option Tree} (timeless : ∀ tree, clause = some tree → tree.Timeless)
    {count all delete : Tree} (counts : count.Asks .count name clause)
    (shows : all.Asks .star name clause) (deletes : delete.Concerns .delete name clause)
    (now later : Timestamp) :
    let database := empty.calls history
    (∀ n : Nat,
      database.execute now count = .ok (.rows ["COUNT(*)"] [[some (toString n)]], database) ↔
        ∃ after, database.execute later delete = .ok (.changed 0 n, after)) ∧
    (∀ error, database.execute now count = .error error ↔
      database.execute later delete = .error error) ∧
    ∀ reply after, database.execute later delete = .ok (reply, after) →
      ∃ (relation : Relation) (predicate : Predicate) (chosen : Row → Bool),
        database.find? name = some relation ∧
        Predicate.ofClause now relation clause = .ok predicate ∧
        (∀ row ∈ relation.rows, predicate.holds row = .ok (chosen row)) ∧
        reply = .changed 0 (relation.rows.countP chosen) ∧
        after = database.put { relation with rows := relation.rows.filter (!chosen ·) } ∧
        database.execute now all = .ok (.rows relation.columnNames
          ((relation.rows.filter chosen).map fun row => row.map Value.cell?), database) ∧
        ∀ (time : Timestamp) (update set : Tree) (changes : List (Column × Nat × Value)),
          update.Concerns .update name clause → update.find? .assignments = some set →
          List.Forall₂ (relation.Assigns time) set.children changes →
          ∃ rows, List.Forall₂ (Relation.Updated chosen changes) relation.rows rows ∧
            (relation.DistinctKeys rows →
              (0 < relation.rows.countP chosen →
                ∀ change ∈ changes, change.1.autoincrement = true →
                  change.2.2 ≠ .integer .maxValue) →
              ∃ sequence, relation.sequence ≤ sequence ∧ database.execute time update =
                .ok (.changed 0 (relation.rows.countP chosen),
                  database.put { relation with rows, sequence })) := by
  intro database
  have sound : database.Sound := sound_empty.calls history
  have same : database.survey later name clause = database.survey now name clause :=
    survey_timeless timeless later now database name
  cases surveyed : database.survey now name clause with
  | error fault =>
      have count_fails : database.execute now count = .error fault := by
        rw [execute_of_asks counts Projection.ofTree_count, surveyed]
        rfl
      have delete_fails : database.execute later delete = .error fault := by
        rw [execute_of_deletes deletes, same, surveyed]
        rfl
      simp [count_fails, delete_fails]
  | ok found =>
      obtain ⟨relation, marked⟩ := found
      obtain ⟨stored, predicate, compiled, marks⟩ := survey_eq_ok.mp surveyed
      obtain ⟨decided, marked_so⟩ := Predicate.eq_of_mark marks
      let chosen (row : Row) : Bool := decide (predicate.holds row = .ok true)
      have tells : ∀ row ∈ relation.rows, predicate.holds row = .ok (chosen row) := by
        intro row member
        obtain ⟨truth, holds⟩ := decided row member
        cases truth <;> simp [chosen, holds]
      obtain rfl : marked = relation.rows.map fun row => (row, chosen row) := marked_so
      have counted := execute_count surveyed counts
      have deleted := execute_delete (same.trans surveyed) deletes
      rw [counted, deleted]
      refine ⟨fun n => by simp, fun error => by simp, fun reply after done => ?_⟩
      obtain ⟨rfl, rfl⟩ := Prod.mk.inj (Except.ok.inj done)
      refine ⟨relation, predicate, chosen, stored, compiled, tells, rfl, rfl,
        execute_star surveyed (sound name relation stored).2 shows, ?_⟩
      intro time update set changes updates sets assigns
      exact execute_update ((survey_timeless timeless time now database name).trans surveyed)
        sound updates sets assigns

/-- One of two rows is counted, removed or changed. -/
theorem same_row_of_listing :
    let now := Date.atMidnight ⟨1970, 1, 1, by decide⟩
    let history := madeListing ++ [(now, Call.script "INSERT INTO t VALUES (0, 'w', NULL)")]
    let database := empty.calls history
    let column (name : String) : Tree := ⟨.identifier, name, []⟩
    let clause : Tree :=
      ⟨.whereClause, "WHERE", [⟨.greaterOrEqual, ">=", [column "a", ⟨.number, "1", []⟩]⟩]⟩
    let source : Tree := ⟨.fromTable, "FROM", [column "t"]⟩
    let query (shown : Tree) : Tree :=
      ⟨.select, "SELECT", [⟨.projection, "", [shown]⟩, source, clause]⟩
    let count := query ⟨.count, "COUNT", []⟩
    let all := query ⟨.star, "*", []⟩
    let delete : Tree := ⟨.delete, "DELETE", [source, clause]⟩
    let change : Tree := ⟨.assign, "=", [column "s", ⟨.stringLit, "z", []⟩]⟩
    let update : Tree :=
      ⟨.update, "UPDATE", [column "t", ⟨.assignments, "SET", [change]⟩, clause]⟩
    let text := "SELECT COUNT(*) FROM t WHERE a >= 1; SELECT * FROM t WHERE a >= 1; " ++
      "DELETE FROM t WHERE a >= 1; UPDATE t SET s = 'z' WHERE a >= 1"
    Script.parse text = .ok [count, all, delete, update] ∧
    database.execute now count = .ok (.rows ["COUNT(*)"] [[some "1"]], database) ∧
    (∃ kept, database.execute now delete = .ok (.changed 0 1, kept)) ∧
    ∃ changed, database.execute now update = .ok (.changed 0 1, changed) := by
  have replied {outcome : Except Error (Reply × Database)} {reply : Reply}
      (told : outcome.toOption.map (·.1) = some reply) : ∃ after, outcome = .ok (reply, after) := by
    cases outcome with
    | ok result => exact ⟨result.2, by rw [← Option.some.inj told]⟩
    | error error => contradiction
  intro now history database column clause source query count all delete change update text
  have read : Script.parse text = .ok [count, all, delete, update] := by
    decide +kernel
  have timeless : ∀ tree, some clause = some tree → tree.Timeless := by
    rintro _ ⟨⟩
    decide +kernel
  have plain (shown : Tree) : ∀ token ∈ [Token.order, .limit, .offset],
      (query shown).find? token = none := by
    simp [query, source, clause, Tree.find?]
  have counts : count.Asks .count "t" (some clause) :=
    ⟨⟨rfl, rfl, rfl⟩, ⟨_, _, rfl, rfl, rfl⟩, plain _⟩
  have shows : all.Asks .star "t" (some clause) :=
    ⟨⟨rfl, rfl, rfl⟩, ⟨_, _, rfl, rfl, rfl⟩, plain _⟩
  obtain ⟨kept, deleted⟩ : ∃ kept, database.execute now delete = .ok (.changed 0 1, kept) :=
    replied (by decide +kernel)
  have deletes : delete.Concerns .delete "t" (some clause) := ⟨rfl, rfl, rfl⟩
  have changes : update.Concerns .update "t" (some clause) := ⟨rfl, rfl, rfl⟩
  obtain ⟨same, -, agree⟩ :=
    clause_chooses_same_rows_after_calls history timeless counts shows deletes now now
  obtain ⟨relation, predicate, chosen, found, -, -, told, -, -, updates⟩ := agree _ _ deleted
  have stored : database.find? "t" =
      some { listing with rows := listing.rows ++ [[.integer 0, .text "w", .null]] } := by
    decide +kernel
  obtain rfl := Option.some.inj (stored.symm.trans found)
  have s : listing.columns[1]? = some (.ofType "s" (.varchar 3)) := rfl
  have keyless : ∀ column ∈ listing.columns, column.isUnique = false := by decide
  obtain ⟨rows, -, updated⟩ := updates now update _ _ changes rfl
    (.cons (.of rfl s rfl (by rfl) (by decide)) .nil)
  obtain ⟨sequence, -, done⟩ := updated
    (fun column place here unique => absurd unique
      (by rw [keyless column (List.mem_of_getElem? here)]; decide))
    (fun _ => List.forall_mem_singleton.mpr fun numbers => absurd numbers (by decide))
  exact ⟨read, (same 1).mpr ⟨kept, deleted⟩, ⟨kept, deleted⟩, _, told ▸ done⟩

end Database
end SqlEngine
