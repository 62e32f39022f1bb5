import SqlEngine.Execution.Change
import SqlEngine.Proofs.Conformance

/-!
# Adding, changing and removing rows keeps conformance

The rows that a statement works out fit the table before any of them is stored: an added row gets
every cell from its literal, its default or the numbering, and a changed row gets only values that
its columns admit.  What is left is the check of the keys, which looks at all rows together.
-/

namespace SqlEngine
namespace Numbering

variable {numbering after : Numbering}

/-- A cell is held by the type of its column if the value given for it is. -/
theorem holds_of_cell {column : Column} (sound : column.Sound) {given : Option Value}
    (held : ∀ value, given = some value → column.type.Holds value) {value : Value}
    (done : numbering.cell column given = .ok (value, after)) : column.type.Holds value := by
  unfold cell at done
  split at done
  · rename_i numbers
    have numbered := ColumnType.holds_integer (sound.whole numbers) numbering.sequence
    split at done
    · split at done
      · simp only [Checked.bind_eq_ok, Checked.pure_eq_ok, Prod.mk.injEq] at done
        obtain ⟨_, -, rfl, -⟩ := done
        exact numbered
      · simp only [Checked.bind_eq_ok, Checked.pure_eq_ok, Prod.mk.injEq] at done
        obtain ⟨_, -, rfl, -⟩ := done
        exact held _ rfl
    · simp only [Checked.bind_eq_ok, Checked.pure_eq_ok, Prod.mk.injEq] at done
      obtain ⟨_, -, rfl, -⟩ := done
      exact numbered
  · obtain ⟨rfl, -⟩ := Prod.mk.inj (Checked.pure_eq_ok.mp done)
    cases given with
    | some value => exact held value rfl
    | none =>
        cases defaulted : column.default with
        | some value => exact sound.default_held value defaulted
        | none => exact column.type.holds_null

/-- The cells of a row are admitted by their columns. -/
theorem admits_of_row {entries : List (Column × Option Value)}
    (sound : ∀ entry ∈ entries, entry.1.Sound ∧
      ∀ value, entry.2 = some value → entry.1.type.Holds value)
    {cells : Row} (done : numbering.row entries = .ok (cells, after)) :
    List.Forall₂ Column.Admits (entries.map (·.1)) cells := by
  induction entries generalizing numbering cells with
  | nil =>
      obtain ⟨rfl, -⟩ := Prod.mk.inj (Except.ok.inj done)
      exact .nil
  | cons entry entries induction =>
      obtain ⟨column, given⟩ := entry
      simp only [row, Checked.bind_eq_ok, Checked.pure_eq_ok, Prod.mk.injEq] at done
      obtain ⟨⟨value, middle⟩, first, _, checked, ⟨others, last⟩, rest, rfl, rfl⟩ := done
      obtain ⟨column_sound, held⟩ := sound (column, given) List.mem_cons_self
      exact .cons ⟨holds_of_cell column_sound held first, Column.checkNull_eq_ok.mp checked⟩
        (induction (fun entry member => sound entry (List.mem_cons_of_mem _ member)) rest)

end Numbering

namespace Relation

variable {now : Timestamp} {relation : Relation}

theorem getElem?_of_column {name : String} {column : Column} {place : Nat}
    (found : relation.column name = .ok (column, place)) :
    relation.columns[place]? = some column := by
  unfold Relation.column at found
  split at found
  · obtain rfl := Except.ok.inj found
    exact List.mk_mem_zipIdx_iff_getElem?.mp (List.mem_of_find?_eq_some ‹_›)
  · contradiction

theorem getElem?_of_named {seen : List Nat} {names : List Tree} {targets : List (Column × Nat)}
    (done : Relation.targets.named relation seen names = .ok targets) {column : Column}
    {place : Nat} (member : (column, place) ∈ targets) :
    relation.columns[place]? = some column := by
  induction names generalizing seen targets with
  | nil =>
      obtain rfl := Except.ok.inj done
      cases member
  | cons name names induction =>
      simp only [Relation.targets.named, Checked.bind_eq_ok] at done
      obtain ⟨target, found, done⟩ := done
      split at done
      · simp [Checked.bind_eq_ok] at done
      · simp only [Checked.bind_eq_ok, Checked.pure_eq_ok] at done
        obtain ⟨others, rest, rfl⟩ := done
        rcases List.mem_cons.mp member with rfl | member
        · exact getElem?_of_column found
        · exact induction rest member

/-- The columns that a list names are columns of the table, with their places. -/
theorem getElem?_of_targets {names : List Tree} {targets : List (Column × Nat)}
    (done : relation.targets names = .ok targets) {column : Column} {place : Nat}
    (member : (column, place) ∈ targets) : relation.columns[place]? = some column := by
  unfold Relation.targets at done
  split at done
  · obtain rfl := Except.ok.inj done
    exact List.mk_mem_zipIdx_iff_getElem?.mp member
  · exact getElem?_of_named done member

theorem holds_of_givenValues {targets : List (Column × Nat)} {literals : List Tree}
    {given : List (Nat × Value)} (done : givenValues now targets literals = .ok given)
    {place : Nat} {value : Value} (member : (place, value) ∈ given) :
    ∃ column, (column, place) ∈ targets ∧ column.type.Holds value := by
  obtain ⟨⟨⟨column, found⟩, literal⟩, inside, read⟩ :=
    Checked.exists_of_mem_right (Checked.mapM_eq_ok.mp done) member
  simp only [Checked.bind_eq_ok, Checked.pure_eq_ok, Prod.mk.injEq] at read
  obtain ⟨typed, typing, rfl, rfl⟩ := read
  exact ⟨column, (List.of_mem_zip inside).1, Tree.holds_of_typedValue typing⟩

/-- A row put together from given values, defaults and the numbering fits the table. -/
theorem fits_of_row (sound : ∀ column ∈ relation.columns, column.Sound)
    {targets : List (Column × Nat)}
    (known : ∀ column place, (column, place) ∈ targets → relation.columns[place]? = some column)
    {literals : List Tree} {given : List (Nat × Value)}
    (values : givenValues now targets literals = .ok given) {numbering after : Numbering}
    {row : Row}
    (done : numbering.row (relation.columns.zipIdx.map fun (column, place) =>
      (column, given.lookup place)) = .ok (row, after)) :
    relation.Fits row := by
  have entries_sound : ∀ entry ∈ relation.columns.zipIdx.map fun (column, place) =>
      (column, given.lookup place), entry.1.Sound ∧
        ∀ value, entry.2 = some value → entry.1.type.Holds value := by
    intro entry member
    obtain ⟨⟨column, place⟩, inside, rfl⟩ := List.mem_map.mp member
    have here := List.mk_mem_zipIdx_iff_getElem?.mp inside
    refine ⟨sound column (List.mem_of_getElem? here), fun value looked => ?_⟩
    obtain ⟨front, back, split, -⟩ := List.lookup_eq_some_iff.mp looked
    have listed : (place, value) ∈ given := by simp [split]
    obtain ⟨other, target, held⟩ := holds_of_givenValues values listed
    obtain rfl : column = other := Option.some.inj (here.symm.trans (known other place target))
    exact held
  simpa [Fits, Function.comp_def] using Numbering.admits_of_row entries_sound done

theorem fits_of_newRows (sound : ∀ column ∈ relation.columns, column.Sound)
    {targets : List (Column × Nat)}
    (known : ∀ column place, (column, place) ∈ targets → relation.columns[place]? = some column)
    {tuples : List Tree} {numbering after : Numbering} {rows : List Row}
    (done : relation.newRows now targets numbering tuples = .ok (rows, after)) :
    ∀ row ∈ rows, relation.Fits row := by
  induction tuples generalizing numbering rows with
  | nil =>
      obtain ⟨rfl, -⟩ := Prod.mk.inj (Except.ok.inj done)
      simp
  | cons tuple tuples induction =>
      simp only [newRows] at done
      split at done
      · simp [Checked.bind_eq_ok] at done
      · simp only [Checked.bind_eq_ok, Checked.pure_eq_ok, Prod.mk.injEq] at done
        obtain ⟨given, values, ⟨row, middle⟩, first, ⟨others, last⟩, rest, rfl, rfl⟩ := done
        intro found member
        rcases List.mem_cons.mp member with rfl | member
        · exact fits_of_row sound known values first
        · exact induction rest found member

/-! ### Changed rows -/

/-- Whether every change puts an admitted value into a column of the table. -/
def Suits (relation : Relation) (changes : List (Column × Nat × Value)) : Prop :=
  ∀ column place value, (column, place, value) ∈ changes →
    relation.columns[place]? = some column ∧ column.Admits value

theorem suits_of_assignments {trees : List Tree} {changes : List (Column × Nat × Value)}
    (done : trees.mapM (relation.assignment now) = .ok changes) : relation.Suits changes := by
  intro column place value member
  obtain ⟨tree, -, assigned⟩ := Checked.exists_of_mem_right (Checked.mapM_eq_ok.mp done) member
  unfold assignment at assigned
  split at assigned
  · simp only [Checked.bind_eq_ok, Checked.pure_eq_ok, Prod.mk.injEq] at assigned
    obtain ⟨⟨found, there⟩, named, typed, read, _, checked, rfl, rfl, rfl⟩ := assigned
    exact ⟨getElem?_of_column named,
      Tree.holds_of_typedValue read, Column.checkNull_eq_ok.mp checked⟩
  · contradiction

private theorem forall₂_set {α β : Type} {related : α → β → Prop} {items : List α}
    {results : List β} (all : List.Forall₂ related items results) {place : Nat} {item : α}
    (found : items[place]? = some item) {result : β} (holds : related item result) :
    List.Forall₂ related items (results.set place result) := by
  induction all generalizing place with
  | nil => exact .nil
  | cons first others induction =>
      cases place with
      | zero =>
          obtain rfl := Option.some.inj found
          exact .cons holds others
      | succ place => exact .cons first (induction found)

/-- A row that fits still fits after changes that suit the table. -/
theorem Fits.assign {changes : List (Column × Nat × Value)} (suits : relation.Suits changes)
    {row after : Row} (fits : relation.Fits row) (done : assign changes row = .ok after) :
    relation.Fits after := by
  refine Checked.foldlM_keeps ?_ done fits
  rintro ⟨column, place, value⟩ member before changed put fits
  obtain ⟨-, rfl⟩ := Row.put_eq_ok.mp put
  obtain ⟨found, admitted⟩ := suits column place value member
  exact forall₂_set fits found admitted

end Relation

/-- Rows are marked if each meets the predicate or does not, and then as they do. -/
theorem Predicate.eq_of_mark {predicate : Predicate} {rows : List Row}
    {marked : List (Row × Bool)} (done : predicate.mark rows = .ok marked) :
    (∀ row ∈ rows, ∃ truth, predicate.holds row = .ok truth) ∧
      marked = rows.map fun row => (row, decide (predicate.holds row = .ok true)) := by
  have all := Checked.mapM_eq_ok.mp done
  clear done
  induction all with
  | nil => simp
  | cons first _ induction =>
      simp only [Checked.bind_eq_ok, Checked.pure_eq_ok] at first
      obtain ⟨truth, holds, rfl⟩ := first
      exact ⟨List.forall_mem_cons.mpr ⟨⟨truth, holds⟩, induction.1⟩, by simp [induction.2, holds]⟩

/-- Marking keeps the rows as they are, in their order. -/
theorem Predicate.map_fst_mark {predicate : Predicate} {rows : List Row}
    {marked : List (Row × Bool)} (done : predicate.mark rows = .ok marked) :
    marked.map (·.1) = rows := by
  rw [(eq_of_mark done).2, List.map_map]
  exact List.map_id rows

/-- The rows of a conforming table still fit when the marked ones are changed. -/
theorem Relation.Sound.fits_of_changed {relation : Relation} (sound : relation.Sound)
    {changes : List (Column × Nat × Value)} (suits : relation.Suits changes)
    {predicate : Predicate} {marked : List (Row × Bool)}
    (marks : predicate.mark relation.rows = .ok marked) {rows : List Row}
    (changed : (marked.mapM fun (row, chosen) =>
      if chosen then Relation.assign changes row else .ok row) = .ok rows) :
    ∀ row ∈ rows, relation.Fits row := by
  intro row member
  obtain ⟨⟨before, chosen⟩, inside, made⟩ :=
    Checked.exists_of_mem_right (Checked.mapM_eq_ok.mp changed) member
  have fits : relation.Fits before := by
    apply sound.rows_fit
    rw [← Predicate.map_fst_mark marks]
    exact List.mem_map_of_mem (f := (·.1)) inside
  dsimp only at made
  split at made
  · exact fits.assign suits made
  · obtain rfl := Except.ok.inj made
    exact fits

namespace Database

variable {now : Timestamp} {database after : Database} {tree : Tree} {reply : Reply}

/-- What an insertion does: the rows that it works out stand behind the old ones, and the numbering
goes on behind them. -/
theorem runInsert_eq_ok (done : database.runInsert now tree = .ok (reply, after)) :
    ∃ into values relation targets rows numbering,
      (tree.find? .into).bind Tree.onlyChild? = some into ∧ tree.find? .values = some values ∧
      database.find? into.lexeme = some relation ∧ relation.targets into.children = .ok targets ∧
      relation.newRows now targets ⟨relation.sequence, 0⟩ values.children = .ok (rows, numbering) ∧
      relation.checkUnique (relation.rows ++ rows) = .ok () ∧
      (∀ row ∈ rows, row.length = relation.columns.length) ∧
      reply = .changed numbering.lastId.toInt rows.length ∧
      after = database.put
        { relation with rows := relation.rows ++ rows, sequence := numbering.sequence } := by
  simp only [runInsert] at done
  split at done
  · rename_i named
    simp only [Checked.bind_eq_ok, Checked.pure_eq_ok, Except.ok.injEq, Prod.mk.injEq] at done
    obtain ⟨_, rfl, values, valued, relation, found, targets, targeted, ⟨rows, numbering⟩, rowed,
      _, inserted, rfl, rfl⟩ := done
    obtain ⟨wide, unique, rfl⟩ := Relation.insertAll_eq_ok.mp inserted
    exact ⟨_, values, relation, targets, rows, numbering, named, Tree.require_eq_ok.mp valued,
      relation_eq_ok.mp found, targeted, rowed, unique, wide, rfl, rfl⟩
  · simp [Checked.bind_eq_ok] at done

/-- What an update does: nothing if no row meets the condition, and else the marked rows are
assigned to and the numbering takes note. -/
theorem runUpdate_eq_ok (done : database.runUpdate now tree = .ok (reply, after)) :
    ∃ name relation predicate, ∃ trees : List Tree, ∃ changes marked rows,
      database.find? name = some relation ∧
      Predicate.ofClause now relation (tree.find? .whereClause) = .ok predicate ∧
      trees.mapM (relation.assignment now) = .ok changes ∧
      predicate.mark relation.rows = .ok marked ∧
      (marked.mapM fun (row, chosen) =>
        if chosen then Relation.assign changes row else .ok row) = .ok rows ∧
      reply = .changed 0 (marked.countP (·.2)) ∧
      (after = database ∨
        ∃ numbering, Relation.noteChanges ⟨relation.sequence, 0⟩ changes = .ok numbering ∧
          relation.checkUnique rows = .ok () ∧
          after = database.put { relation with rows, sequence := numbering.sequence }) := by
  simp only [runUpdate, Checked.bind_eq_ok] at done
  obtain ⟨name, -, set, -, relation, found, predicate, compiled, changes, assigned, marked, marks,
    rows, changed, done⟩ := done
  refine ⟨name, relation, predicate, set.children, changes, marked, rows, relation_eq_ok.mp found,
    compiled, assigned, marks, changed, ?_⟩
  split at done
  · rename_i none
    obtain ⟨rfl, rfl⟩ := Prod.mk.inj (Checked.pure_eq_ok.mp done)
    exact ⟨by simp [none], .inl rfl⟩
  · simp only [Checked.bind_eq_ok, Checked.pure_eq_ok, Prod.mk.injEq] at done
    obtain ⟨numbering, noted, _, replaced, rfl, rfl⟩ := done
    obtain ⟨unique, rfl⟩ := Relation.replaceRows_eq_ok.mp replaced
    exact ⟨rfl, .inr ⟨numbering, noted, unique, rfl⟩⟩

/-- What a deletion does: the rows that are not marked stay. -/
theorem runDelete_eq_ok (done : database.runDelete now tree = .ok (reply, after)) :
    ∃ name relation predicate marked, database.find? name = some relation ∧
      Predicate.ofClause now relation (tree.find? .whereClause) = .ok predicate ∧
      predicate.mark relation.rows = .ok marked ∧
      reply = .changed 0 (marked.countP (·.2)) ∧
      after = database.put { relation with rows := (marked.filter (!·.2)).map (·.1) } := by
  simp only [runDelete, Checked.bind_eq_ok, Checked.pure_eq_ok, Prod.mk.injEq] at done
  obtain ⟨_, -, name, -, relation, found, predicate, compiled, marked, marks, rfl, rfl⟩ := done
  exact ⟨name, relation, predicate, marked, relation_eq_ok.mp found, compiled, marks, rfl, rfl⟩

/-! ### Conformance is kept -/

theorem Sound.runInsert (sound : database.Sound)
    (done : database.runInsert now tree = .ok (reply, after)) : after.Sound := by
  obtain ⟨into, values, relation, targets, rows, numbering, -, -, found, targeted, rowed, unique,
    wide, -, rfl⟩ := runInsert_eq_ok done
  have conforms := (sound into.lexeme relation found).2
  have fit : ∀ row ∈ relation.rows ++ rows, relation.Fits row := by
    intro row member
    rcases List.mem_append.mp member with old | new
    · exact conforms.rows_fit row old
    · exact Relation.fits_of_newRows conforms.columns_sound
        (fun _ _ => Relation.getElem?_of_targets targeted) rowed row new
  refine sound.put (conforms.withRows fit ?_ numbering.sequence)
  exact (Relation.checkUnique_eq_ok fun row member => (fit row member).length_eq).mp unique

theorem Sound.runUpdate (sound : database.Sound)
    (done : database.runUpdate now tree = .ok (reply, after)) : after.Sound := by
  obtain ⟨name, relation, predicate, trees, changes, marked, rows, found, -, assigned, marks,
    changed, -, rfl | ⟨numbering, -, unique, rfl⟩⟩ := runUpdate_eq_ok done
  · exact sound
  · have conforms := (sound name relation found).2
    have fit := conforms.fits_of_changed (Relation.suits_of_assignments assigned) marks changed
    refine sound.put (conforms.withRows fit ?_ numbering.sequence)
    exact (Relation.checkUnique_eq_ok fun row member => (fit row member).length_eq).mp unique

theorem Sound.runDelete (sound : database.Sound)
    (done : database.runDelete now tree = .ok (reply, after)) : after.Sound := by
  obtain ⟨name, relation, predicate, marked, found, -, marks, -, rfl⟩ := runDelete_eq_ok done
  have conforms := (sound name relation found).2
  have kept : ((marked.filter (!·.2)).map (·.1)).Sublist relation.rows := by
    rw [← Predicate.map_fst_mark marks]
    exact List.filter_sublist.map _
  refine sound.put (conforms.withRows (fun row member => ?_) (fun column place here unique => ?_)
    relation.sequence)
  · exact conforms.rows_fit row (kept.subset member)
  · exact (conforms.keys_distinct column place here unique).sublist kept

end Database
end SqlEngine
