import SqlEngine.Proofs.Independence
import SqlEngine.Proofs.Orders
import SqlEngine.Proofs.Sorting
import SqlEngine.Proofs.Uniqueness

/-!
# What a query answers

A query answers the rows of a table that meet its condition, in the order that it asks for, of these
the cells of the columns that it names, and of these the lines from its offset up to its limit.  The
cells of a column are always in a total preorder, so that the order of the rows is fixed; and so the
pages of an answer make up the answer.
-/

namespace SqlEngine

/-- Whether a row may stand in front of another in the order of a column, or in the reverse
order. -/
def Row.Before (place : Nat) (descending : Bool) (left right : Row) : Prop :=
  ∃ value other, left[place]? = some value ∧ right[place]? = some other ∧
    if descending then other.Precedes value else value.Precedes other

namespace Relation

/-- Whether rows found in a table are arranged as a clause asks for; without one they stand as they
are stored. -/
inductive Arranges (relation : Relation) (found : List Row) : Option Tree → List Row → Prop where
  /-- There is no clause. -/
  | stored : Arranges relation found none found
  /-- The rows are in the only stable order of the column that the clause names. -/
  | sorted {clause named : Tree} {place : Nat} {rows : List Row} (only : clause.children = [named])
      (column : relation.columnNames[place]? = some named.lexeme)
      (stable : StablyOrdered (Row.Before place (named.has .desc)) found rows)
      (unique : ∀ other, StablyOrdered (Row.Before place (named.has .desc)) found other →
        other = rows) : Arranges relation found (some clause) rows

/-- Whether a header and lines show of rows what a list of nodes names. -/
inductive Shows (relation : Relation) (rows : List Row) :
    List Tree → List String → List (List (Option String)) → Prop where
  /-- All columns. -/
  | star {node : Tree} {nodes : List Tree} (star : node.token = .star) :
      Shows relation rows (node :: nodes) relation.columnNames
        (rows.map fun row => row.map Value.cell?)
  /-- The number of rows. -/
  | count {node : Tree} {nodes : List Tree} (count : node.token = .count) :
      Shows relation rows (node :: nodes) ["COUNT(*)"] [[some (toString rows.length)]]
  /-- The columns named, as often and in the order in which they are. -/
  | columns {node : Tree} {nodes : List Tree} {places : List Nat}
      {shown : List (List (Option String))} (identifier : node.token = .identifier)
      (named : List.Forall₂ (fun node place => relation.columnNames[place]? = some node.lexeme)
        (node :: nodes) places)
      (cells : List.Forall₂ (fun row line =>
        List.Forall₂ (fun place cell => row[place]?.map Value.cell? = some cell) places line)
        rows shown) :
      Shows relation rows (node :: nodes) ((node :: nodes).map (·.lexeme)) shown

end Relation

/-- The number that a clause asks for, if there is a clause. -/
inductive Counts : Option Tree → Option Nat → Prop where
  /-- There is no clause. -/
  | absent : Counts none none
  /-- The clause has a numeral. -/
  | given {clause number : Tree} {count : Nat} (only : clause.children = [number])
      (read : Numeral.unsigned? number.lexeme.toList = some count) :
      Counts (some clause) (some count)

namespace Database

/-- Whether a header and lines answer a query. -/
inductive Selects (now : Timestamp) (database : Database) (tree : Tree) :
    List String → List (List (Option String)) → Prop where
  /-- The rows that meet the condition are arranged, shown and cut. -/
  | of {source named chosen : Tree} {relation : Relation} {predicate : Predicate} {rows : List Row}
      {header : List String} {shown : List (List (Option String))} {offset limit : Option Nat}
      (origin : tree.find? .fromTable = some source) (only : source.children = [named])
      (stored : database.find? named.lexeme = some relation)
      (condition : Predicate.ofClause now relation (tree.find? .whereClause) = .ok predicate)
      (decided : ∀ row ∈ relation.rows, ∃ truth, predicate.holds row = .ok truth)
      (arranged : relation.Arranges
        (relation.rows.filter fun row => predicate.holds row = .ok true) (tree.find? .order) rows)
      (projection : tree.find? .projection = some chosen)
      (shows : relation.Shows rows chosen.children header shown)
      (skips : Counts (tree.find? .offset) offset) (stops : Counts (tree.find? .limit) limit) :
      Selects now database tree header
        (let rest := shown.drop (offset.getD 0)
        limit.elim rest rest.take)

end Database

/-! ## Order -/

namespace Value.Ranked

variable {cells : Value → Prop} {left middle right : Value}

theorem total (ranked : Ranked cells) (held : cells left) (held' : cells right) :
    left.Precedes right ∨ right.Precedes left := by
  rw [← ranked.follows left right held held', ← ranked.follows right left held' held,
    ranked.swap left right held held']
  cases left.sortOrder right <;> simp [Ordering.swap]

theorem precedes_trans (ranked : Ranked cells) (held : cells left) (held' : cells middle)
    (held'' : cells right) (front : left.Precedes middle) (back : middle.Precedes right) :
    left.Precedes right := by
  rw [← ranked.follows _ _ held held'] at front
  rw [← ranked.follows _ _ held' held''] at back
  rw [← ranked.follows _ _ held held'']
  exact ranked.trans left middle right held held' held'' front back

/-- Values are put in the order in which they precede each other, or in its reverse. -/
theorem inOrder_iff (ranked : Ranked cells) (held : cells left) (held' : cells right)
    (descending : Bool) : inOrder descending left right = true ↔
      if descending then right.Precedes left else left.Precedes right := by
  cases descending with
  | false => simp [inOrder, ← ranked.follows left right held held']
  | true =>
      simp [inOrder, ← ranked.follows right left held' held, ranked.swap left right held held']

theorem of_imp {few : Value → Prop} (ranked : Ranked cells)
    (within : ∀ value, few value → cells value) : Ranked few where
  swap left right held held' := ranked.swap left right (within _ held) (within _ held')
  trans left middle right held held' held'' :=
    ranked.trans left middle right (within _ held) (within _ held') (within _ held'')
  follows left right held held' := ranked.follows left right (within _ held) (within _ held')

end Value.Ranked

namespace Relation.Sound

variable {relation : Relation} {rows sorted : List Row} {place : Nat}

/-- The cells of a column are in a total preorder. -/
theorem ranked_cells (sound : relation.Sound) (place : Nat) :
    Value.Ranked fun value => ∃ row ∈ relation.rows, row[place]? = some value := by
  cases inside : relation.columns[place]? with
  | some column =>
      refine (Value.ranked_of_type column.type).of_imp ?_
      rintro value ⟨row, member, found⟩
      exact ((sound.rows_fit row member).admits inside found).1
  | none =>
      have nothing (value : Value) : ¬ ∃ row ∈ relation.rows, row[place]? = some value := by
        rintro ⟨row, member, found⟩
        have width := (sound.rows_fit row member).length_eq
        have short := (List.getElem?_eq_some_iff.mp found).1
        have long := List.getElem?_eq_none_iff.mp inside
        omega
      exact (Value.ranked_of_type .integer).of_imp fun value held => absurd held (nothing value)

/-- The rows of a table are in a total preorder by every column. -/
theorem totallyOrdered_rows (sound : relation.Sound) (inside : place < relation.columns.length)
    (descending : Bool) : TotallyOrdered (Row.Before place descending) relation.rows := by
  have ranked := sound.ranked_cells place
  have cell (row : Row) (member : row ∈ relation.rows) : ∃ value, row[place]? = some value :=
    ⟨_, List.getElem?_eq_getElem ((sound.rows_fit row member).length_eq ▸ inside)⟩
  constructor
  · intro left here right there
    obtain ⟨value, found⟩ := cell left here
    obtain ⟨other, found'⟩ := cell right there
    have either := ranked.total ⟨left, here, found⟩ ⟨right, there, found'⟩
    cases descending with
    | false =>
        exact either.imp (⟨value, other, found, found', ·⟩) (⟨other, value, found', found, ·⟩)
    | true =>
        exact either.symm.imp (⟨value, other, found, found', ·⟩) (⟨other, value, found', found, ·⟩)
  · rintro left here middle between right there ⟨first, second, found, found', front⟩
      ⟨_, third, again, last, back⟩
    obtain rfl := Option.some.inj (found'.symm.trans again)
    refine ⟨first, third, found, last, ?_⟩
    cases descending with
    | false =>
        exact ranked.precedes_trans ⟨left, here, found⟩ ⟨middle, between, found'⟩
          ⟨right, there, last⟩ front back
    | true =>
        exact ranked.precedes_trans ⟨right, there, last⟩ ⟨middle, between, found'⟩
          ⟨left, here, found⟩ back front

end Relation.Sound

namespace Relation

variable {relation : Relation}

theorem columnNames_of_column {name : String} {column : Column} {place : Nat}
    (found : relation.column name = .ok (column, place)) :
    column.name = name ∧ relation.columnNames[place]? = some name := by
  have named : column.name = name := by
    unfold Relation.column at found
    split at found
    · rename_i there
      obtain rfl := Except.ok.inj found
      have same := List.find?_some there
      exact beq_iff_eq.mp same
    · contradiction
  exact ⟨named, by simp [columnNames, getElem?_of_column found, named]⟩

end Relation

theorem Tree.lexeme_of_identifier? {tree : Tree} {name : String}
    (carries : tree.identifier? = some name) : tree.lexeme = name := by
  unfold identifier? at carries
  split at carries
  · exact Option.some.inj carries
  · contradiction

/-- Sorting rows by their cells, each beside its row, is sorting the rows. -/
theorem sort_keyed {rows : List Row} {place : Nat} {descending : Bool}
    {keyed : List (Value × Row)}
    (taken : List.Forall₂ (fun row entry => row[place]? = some entry.1 ∧ entry.2 = row)
      rows keyed) :
    (keyed.mergeSort fun left right => inOrder descending left.1 right.1).map (·.2) =
      rows.mergeSort fun left right =>
        inOrder descending (left[place]?.getD .null) (right[place]?.getD .null) := by
  have beside : keyed = rows.map fun row => (row[place]?.getD .null, row) := by
    induction taken with
    | nil => rfl
    | @cons row entry rows keyed first _ induction =>
        obtain ⟨value, row'⟩ := entry
        obtain ⟨found, rfl⟩ := first
        simp [found, induction]
  have sorted := List.map_mergeSort (l := rows)
    (r := fun left right =>
      inOrder descending (left[place]?.getD .null) (right[place]?.getD .null))
    (s := fun left right => inOrder descending left.1 right.1)
    (f := fun row => (row[place]?.getD .null, row)) fun _ _ _ _ => rfl
  rw [beside, ← sorted, List.map_map]
  exact List.map_id _

theorem Relation.Arranges.subset {relation : Relation} {found rows : List Row}
    {clause : Option Tree} (arranged : relation.Arranges found clause rows) : rows ⊆ found := by
  cases arranged with
  | stored => exact List.Subset.refl _
  | sorted _ _ stable => exact stable.perm.subset

/-- Sorting arranges rows of a table as the clause asks for. -/
theorem Relation.Sound.arranges_of_sortRows {relation : Relation} (sound : relation.Sound)
    {rows sorted : List Row} {clause : Option Tree} (inside : rows ⊆ relation.rows)
    (done : sortRows relation rows clause = .ok sorted) :
    relation.Arranges rows clause sorted := by
  unfold sortRows at done
  split at done
  · obtain rfl := Except.ok.inj done
    exact .stored
  · rename_i clause
    simp only [Checked.bind_eq_ok, Checked.pure_eq_ok, Tree.require_eq_ok, Checked.mapM_eq_ok,
      Row.cell_eq_ok] at done
    obtain ⟨named, only, ⟨column, place⟩, found, keyed, taken, rfl⟩ := done
    have width := (List.getElem?_eq_some_iff.mp (Relation.getElem?_of_column found)).1
    have order := (sound.totallyOrdered_rows width (named.has .desc)).of_subset inside
    have taken' : List.Forall₂ (fun row entry => row[place]? = some entry.1 ∧ entry.2 = row)
        rows keyed := taken.imp (by rintro row _ ⟨value, there, rfl⟩; exact ⟨there, rfl⟩)
    have stable : StablyOrdered (Row.Before place (named.has .desc)) rows
        (rows.mergeSort fun left right =>
          inOrder (named.has .desc) (left[place]?.getD .null) (right[place]?.getD .null)) := by
      refine stablyOrdered_mergeSort order fun left here right there => ?_
      have cell (row : Row) (member : row ∈ rows) : ∃ value, row[place]? = some value :=
        ⟨_, List.getElem?_eq_getElem ((sound.rows_fit row (inside member)).length_eq ▸ width)⟩
      obtain ⟨value, held⟩ := cell left here
      obtain ⟨other, held'⟩ := cell right there
      rw [held, held']
      exact ((sound.ranked_cells place).inOrder_iff ⟨left, inside here, held⟩
        ⟨right, inside there, held'⟩ _).trans (by simp [Row.Before, held, held'])
    rw [sort_keyed taken']
    exact .sorted (Tree.onlyChild?_eq_some.mp only) (Relation.columnNames_of_column found).2 stable
      fun other stable' => stable'.unique order stable

/-! ## What is shown -/

namespace Projection

variable {relation : Relation} {rows : List Row} {shown : List (List (Option String))}
  {chosen : List (Column × Nat)}

theorem cells_columns_eq_ok : (columns chosen).cells rows = .ok shown ↔
    List.Forall₂ (fun row line => List.Forall₂
      (fun entry cell => row[entry.2]?.map Value.cell? = some cell) chosen line) rows shown := by
  simp only [cells, Checked.mapM_eq_ok, Checked.bind_eq_ok, Checked.pure_eq_ok, Row.cell_eq_ok,
    Option.map_eq_some_iff]

/-- All columns of a row are the row. -/
theorem line_eq_of_zipIdx {columns : List Column} {row : Row} {line : List (Option String)}
    (width : row.length = columns.length)
    (made : List.Forall₂ (fun entry cell => row[entry.2]?.map Value.cell? = some cell)
      columns.zipIdx line) : line = row.map Value.cell? := by
  have lengths : columns.length = line.length := by simpa using made.length_eq
  refine List.ext_getElem (by simp [← lengths, width]) fun place inside inside' => ?_
  have entry : columns.zipIdx[place]? = some (columns[place], place) := by simp [lengths, inside]
  have there := Checked.related_of_getElem? made entry (List.getElem?_eq_getElem inside)
  have within : place < row.length := by omega
  simpa [within] using there.symm

theorem names_of_columns {nodes : List Tree}
    (named : List.Forall₂ (fun node entry => relation.column node.lexeme = .ok entry)
      nodes chosen) : chosen.map (·.1.name) = nodes.map (·.lexeme) := by
  induction named with
  | nil => rfl
  | cons first _ induction =>
      rw [List.map_cons, List.map_cons, induction, (Relation.columnNames_of_column first).1]

theorem header_zipIdx (relation : Relation) :
    (columns relation.columns.zipIdx).header = relation.columnNames :=
  List.map_map.symm.trans (congrArg (List.map Column.name) (List.zipIdx_map_fst 0 _))

/-- What a projection shows of rows that are wide enough is what its nodes name. -/
theorem shows_of_cells {tree : Tree} {projection : Projection}
    (wide : ∀ row ∈ rows, row.length = relation.columns.length)
    (projected : ofTree relation tree = .ok projection) (done : projection.cells rows = .ok shown) :
    relation.Shows rows tree.children projection.header shown := by
  unfold ofTree at projected
  split at projected
  · rename_i lexeme children nodes split
    obtain rfl := Except.ok.inj projected
    have lines : shown = rows.map fun row => row.map Value.cell? := by
      have made := cells_columns_eq_ok.mp done
      clear done
      induction made with
      | nil => rfl
      | @cons row line rows shown first _ induction =>
          obtain ⟨width, others⟩ := List.forall_mem_cons.mp wide
          rw [List.map_cons, ← line_eq_of_zipIdx width first, ← induction others]
    rw [split, header_zipIdx, lines]
    exact .star rfl
  · rename_i split
    obtain rfl := Except.ok.inj projected
    obtain rfl := Except.ok.inj done
    rw [split]
    exact .count rfl
  · rename_i lexeme children nodes split
    simp only [Checked.bind_eq_ok, Checked.pure_eq_ok, Checked.mapM_eq_ok] at projected
    obtain ⟨chosen, named, rfl⟩ := projected
    rw [header, names_of_columns named]
    rw [split] at named ⊢
    have places : List.Forall₂ (fun node place => relation.columnNames[place]? = some node.lexeme)
        (⟨.identifier, lexeme, children⟩ :: nodes) (chosen.map (·.2)) :=
      List.forall₂_map_right_iff.mpr
        (named.imp fun node entry found => (Relation.columnNames_of_column found).2)
    exact .columns rfl places ((cells_columns_eq_ok.mp done).imp fun row line made =>
      List.forall₂_map_left_iff.mpr made)
  · contradiction

end Projection

theorem rowCount_eq_ok {clause : Option Tree} {count : Option Nat} :
    rowCount clause = .ok count ↔ Counts clause count := by
  unfold rowCount
  split
  · constructor
    · intro same
      obtain rfl := Except.ok.inj same
      exact .absent
    · rintro ⟨⟩
      rfl
  · simp only [Checked.bind_eq_ok, Tree.require_eq_ok, Tree.onlyChild?_eq_some]
    constructor
    · rintro ⟨number, only, counted⟩
      split at counted
      · obtain rfl := Checked.pure_eq_ok.mp counted
        exact .given only ‹_›
      · contradiction
    · rintro (_ | ⟨only, read⟩)
      exact ⟨_, only, by simp [read, pure, Except.pure]⟩

/-- The rows that are marked are those that meet the condition. -/
theorem Predicate.filter_mark {predicate : Predicate} {rows : List Row}
    {marked : List (Row × Bool)} (marks : predicate.mark rows = .ok marked) :
    (∀ row ∈ rows, ∃ truth, predicate.holds row = .ok truth) ∧
      (marked.filter (·.2)).map (·.1) =
        rows.filter fun row => predicate.holds row = .ok true := by
  obtain ⟨decided, rfl⟩ := eq_of_mark marks
  exact ⟨decided, by simp [List.filter_map, Function.comp_def]⟩

namespace Database

variable {now : Timestamp} {database after : Database} {tree : Tree} {reply : Reply}

theorem execute_of_select (select : tree.token = .select) :
    database.execute now tree = .ok (reply, after) ↔
      database.runSelect now tree = .ok reply ∧ after = database := by
  simp only [execute, select, Checked.bind_eq_ok, Checked.pure_eq_ok, Prod.mk.injEq]
  constructor
  · rintro ⟨_, done, rfl, rfl⟩
    exact ⟨done, rfl⟩
  · rintro ⟨done, rfl⟩
    exact ⟨reply, done, rfl, rfl⟩

/-- A query that succeeds on a conforming database is answered as it asks. -/
theorem Sound.selects_of_runSelect (sound : database.Sound)
    (done : database.runSelect now tree = .ok reply) :
    ∃ header cells, reply = .rows header cells ∧ database.Selects now tree header cells := by
  simp only [runSelect, Checked.bind_eq_ok, Checked.pure_eq_ok, Tree.require_eq_ok,
    relation_eq_ok, Tree.identifier_eq_ok, rowCount_eq_ok] at done
  obtain ⟨source, origin, name, named, relation, stored, chosen, projection, projected, shows,
    predicate, condition, marked, marks, rows, sorted, shown, made, offset, skips, limit, stops,
    rfl⟩ := done
  obtain ⟨child, only, carries⟩ := Option.bind_eq_some_iff.mp named
  obtain rfl := Tree.lexeme_of_identifier? carries
  have conforms := (sound _ relation stored).2
  obtain ⟨decided, found⟩ := Predicate.filter_mark marks
  rw [found] at sorted
  have arranged := conforms.arranges_of_sortRows (List.filter_sublist.subset) sorted
  have wide : ∀ row ∈ rows, row.length = relation.columns.length := fun row member =>
    (conforms.rows_fit row (List.mem_filter.mp (arranged.subset member)).1).length_eq
  exact ⟨_, _, rfl, .of origin (Tree.onlyChild?_eq_some.mp only) stored condition decided arranged
    projection (Projection.shows_of_cells wide shows made) skips stops⟩

end Database

/-! ## Pages -/

/-- Whether a query asks for a page of the answer to another: for as many lines as a page has,
behind those of the pages in front of it. -/
structure Tree.IsPage (whole page : Tree) (size number : Nat) : Prop where
  /-- It is a query. -/
  token : page.token = .select
  /-- It is about the same table. -/
  source : page.find? .fromTable = whole.find? .fromTable
  /-- It shows the same columns. -/
  projection : page.find? .projection = whole.find? .projection
  /-- It has the same condition. -/
  condition : page.find? .whereClause = whole.find? .whereClause
  /-- It asks for the same order. -/
  order : page.find? .order = whole.find? .order
  /-- Its limit is the size of a page. -/
  limit : Counts (page.find? .limit) (some size)
  /-- Its offset is the size of the pages in front of it, and may be missing if it is zero. -/
  offset : ∃ offset, Counts (page.find? .offset) offset ∧ offset.getD 0 = number * size

/-- The parts of a list that have a size, one behind the other, make up its front. -/
theorem flatten_parts {α : Type} (items : List α) (size count : Nat) :
    ((List.range count).map fun number => (items.drop (number * size)).take size).flatten =
      items.take (count * size) := by
  induction count with
  | zero => simp
  | succ count induction =>
      rw [List.range_succ, List.map_append, List.flatten_append, induction, Nat.succ_mul,
        List.take_add]
      simp

namespace Database

variable {now : Timestamp} {database : Database} {whole page : Tree} {header : List String}
  {cells : List (List (Option String))} {size number : Nat}

/-- A page of an answer holds the lines of the answer that stand there. -/
theorem runSelect_page (no_limit : whole.find? .limit = none)
    (no_offset : whole.find? .offset = none)
    (done : database.runSelect now whole = .ok (.rows header cells))
    (asks : whole.IsPage page size number) : database.runSelect now page =
      .ok (.rows header ((cells.drop (number * size)).take size)) := by
  obtain ⟨offset, skips, skipped⟩ := asks.offset
  simp only [runSelect, no_limit, no_offset, Checked.bind_eq_ok, Checked.pure_eq_ok] at done
  obtain ⟨source, origin, name, named, relation, stored, chosen, projection, projected, shows,
    predicate, condition, marked, marks, rows, sorted, shown, made, first, unskipped, all,
    unlimited, same⟩ := done
  obtain rfl := Except.ok.inj unskipped
  obtain rfl := Except.ok.inj unlimited
  obtain ⟨rfl, rfl⟩ := Reply.rows.inj same
  simp only [runSelect, asks.source, asks.projection, asks.condition, asks.order,
    Checked.bind_eq_ok, Checked.pure_eq_ok]
  refine ⟨source, origin, name, named, relation, stored, chosen, projection, projected, shows,
    predicate, condition, marked, marks, rows, sorted, shown, made, offset,
    rowCount_eq_ok.mpr skips, some size, rowCount_eq_ok.mpr asks.limit, ?_⟩
  simp [skipped]

/-- Pages of an answer, each asked for at the same time or without the current time, make up the
front of the answer. -/
theorem exists_pages (no_limit : whole.find? .limit = none)
    (no_offset : whole.find? .offset = none)
    (done : database.runSelect now whole = .ok (.rows header cells))
    {pages : List (Timestamp × Tree)} (asks : ∀ number page, pages[number]? = some page →
      (page.1 = now ∨ page.2.Timeless) ∧ whole.IsPage page.2 size number) :
    ∃ parts : List (List (List (Option String))),
      List.Forall₂ (fun page part =>
        database.execute page.1 page.2 = .ok (.rows header part, database)) pages parts ∧
      parts.flatten = cells.take (pages.length * size) := by
  refine ⟨_, ?_, flatten_parts cells size pages.length⟩
  refine List.forall₂_iff_get.mpr ⟨by simp, fun number inside inside' => ?_⟩
  obtain ⟨time, page⟩ := asks number pages[number] (List.getElem?_eq_getElem inside)
  have same : database.runSelect pages[number].1 pages[number].2 =
      database.runSelect now pages[number].2 := by
    rcases time with rfl | timeless
    · rfl
    · exact runSelect_timeless timeless _ now database
  refine (execute_of_select page.token).mpr ⟨same.trans ?_, rfl⟩
  simpa using runSelect_page no_limit no_offset done page

/-- A query that succeeds behind any history changes nothing, and sends the rows of the table that
meet its condition, in the stable order that it asks for, of these the cells that it names, and of
these those from its offset up to its limit.  The cells of every column are in a total preorder, so
that there is just one such order; and pages of one size make up the answer. -/
theorem selects_after_calls (history : List (Timestamp × Call)) :
    let database := empty.calls history
    (∀ (now : Timestamp) (tree : Tree) (reply : Reply) (after : Database),
      tree.token = .select → database.execute now tree = .ok (reply, after) →
        after = database ∧ ∃ header cells, database.Selects now tree header cells ∧
          reply.messages = .header header :: cells.map .row ++ [.rowEnd]) ∧
    (∀ (name : String) (relation : Relation), database.find? name = some relation →
      ∀ place : Nat, Value.Ranked fun value => ∃ row ∈ relation.rows, row[place]? = some value) ∧
    ∀ (now : Timestamp) (whole : Tree) (header : List String) (cells : List (List (Option String)))
      (after : Database) (pages : List (Timestamp × Tree)) (size : Nat),
      whole.token = .select → whole.find? .limit = none → whole.find? .offset = none →
      database.execute now whole = .ok (.rows header cells, after) →
      (∀ number page, pages[number]? = some page →
        (page.1 = now ∨ page.2.Timeless) ∧ whole.IsPage page.2 size number) →
      ∃ parts : List (List (List (Option String))),
        List.Forall₂ (fun page part =>
          database.execute page.1 page.2 = .ok (.rows header part, database)) pages parts ∧
        parts.flatten = cells.take (pages.length * size) ∧
        (cells.length ≤ pages.length * size → parts.flatten = cells) := by
  intro database
  have sound : database.Sound := sound_empty.calls history
  refine ⟨fun now tree reply after select done => ?_, fun name relation stored place => ?_,
    fun now whole header cells after pages size select no_limit no_offset done asks => ?_⟩
  · obtain ⟨answered, unchanged⟩ := (execute_of_select select).mp done
    obtain ⟨header, cells, rfl, selects⟩ := sound.selects_of_runSelect answered
    exact ⟨unchanged, header, cells, selects, rfl⟩
  · exact (sound name relation stored).2.ranked_cells place
  · obtain ⟨answered, -⟩ := (execute_of_select select).mp done
    obtain ⟨parts, each, joined⟩ := exists_pages no_limit no_offset answered asks
    exact ⟨parts, each, joined, fun enough => joined.trans (List.take_of_length_le enough)⟩

/-- A table with a row without a number in front of two rows with the same number. -/
def numbered : Relation where
  name := "t"
  columns := [{ name := "a", type := .integer }, { name := "b", type := .text }]
  rows := [[.null, .text "x"], [.integer 1, .text "y"], [.integer 1, .text "z"]]

/-- The rows of the table in descending order: those with a number as they are stored, and then the
one without. -/
theorem sortRows_numbered : sortRows numbered numbered.rows
    (some ⟨.order, "ORDER", [⟨.identifier, "a", [⟨.desc, "DESC", []⟩]⟩]⟩) =
      .ok [[.integer 1, .text "y"], [.integer 1, .text "z"], [.null, .text "x"]] := by
  -- Merging recurs on lengths, so that only its equations open it.
  have sorted : List.mergeSort ([(.null, [.null, .text "x"]), (.integer 1, [.integer 1, .text "y"]),
      (.integer 1, [.integer 1, .text "z"])] : List (Value × Row))
        (fun left right => inOrder true left.1 right.1) =
      [(.integer 1, [.integer 1, .text "y"]), (.integer 1, [.integer 1, .text "z"]),
        (.null, [.null, .text "x"])] := by
    simp [List.mergeSort, List.MergeSort.Internal.splitInTwo, inOrder, Value.sortOrder,
      Value.isNull, Value.compare?]
  exact congrArg (fun entries => Except.ok (entries.map Prod.snd)) sorted

/-- Two pages of the rows of a table in descending order. -/
theorem pages_of_numbered :
    let now := Date.atMidnight ⟨1970, 1, 1, by decide⟩
    let history := [(now, Call.script
      "CREATE TABLE t (a INT, b TEXT); INSERT INTO t VALUES (NULL, 'x'), (1, 'y'), (1, 'z')")]
    let query (clauses : List Tree) : Tree := ⟨.select, "SELECT",
      [⟨.projection, "", [⟨.identifier, "b", []⟩]⟩, ⟨.fromTable, "FROM", [⟨.identifier, "t", []⟩]⟩,
        ⟨.order, "ORDER", [⟨.identifier, "a", [⟨.desc, "DESC", []⟩]⟩]⟩] ++ clauses⟩
    let limit : Tree := ⟨.limit, "LIMIT", [⟨.number, "2", []⟩]⟩
    let offset : Tree := ⟨.offset, "OFFSET", [⟨.number, "2", []⟩]⟩
    let database := empty.calls history
    let cells := [[some "y"], [some "z"], [some "x"]]
    database.execute now (query []) = .ok (.rows ["b"] cells, database) ∧
    (∃ header lines, database.Selects now (query []) header lines ∧
      (Reply.rows ["b"] cells).messages = .header header :: lines.map .row ++ [.rowEnd]) ∧
    ∃ parts : List (List (List (Option String))),
      List.Forall₂ (fun page part =>
        database.execute page.1 page.2 = .ok (.rows ["b"] part, database))
        [(now, query [limit]), (now, query [limit, offset])] parts ∧ parts.flatten = cells := by
  intro now history query limit offset database cells
  have stored : database.find? "t" = some numbered := by decide +kernel
  have done : database.execute now (query []) = .ok (.rows ["b"] cells, database) := by
    refine (execute_of_select rfl).mpr ⟨?_, rfl⟩
    simp only [runSelect, Checked.bind_eq_ok, Checked.pure_eq_ok, relation_eq_ok]
    exact ⟨_, rfl, _, rfl, numbered, stored, _, rfl, .columns [(numbered.columns[1], 1)], rfl, _,
      rfl, _, rfl, _, sortRows_numbered, _, rfl, _, rfl, _, rfl, rfl⟩
  obtain ⟨answers, -, pages⟩ := selects_after_calls history
  refine ⟨done, (answers now _ _ _ rfl done).2, ?_⟩
  have count : Counts (some limit) (some 2) := .given rfl (by decide +kernel)
  have skip : Counts (some offset) (some 2) := .given rfl (by decide +kernel)
  have asks : ∀ number page, [(now, query [limit]), (now, query [limit, offset])][number]? =
      some page → (page.1 = now ∨ page.2.Timeless) ∧ (query []).IsPage page.2 2 number := by
    rintro (_ | _ | number) page ⟨⟩
    · exact ⟨.inl rfl, rfl, rfl, rfl, rfl, rfl, count, none, .absent, rfl⟩
    · exact ⟨.inl rfl, rfl, rfl, rfl, rfl, rfl, count, some 2, skip, rfl⟩
  obtain ⟨parts, each, -, joined⟩ :=
    pages now (query []) ["b"] cells database _ 2 rfl rfl rfl done asks
  exact ⟨parts, each, joined (by decide)⟩

end Database
end SqlEngine
