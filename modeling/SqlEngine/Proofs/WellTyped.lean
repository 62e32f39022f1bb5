import SqlEngine.Execution.Run
import SqlEngine.Proofs.Comparisons
import SqlEngine.Proofs.Histories
import SqlEngine.Proofs.Shapes

/-!
# Conditions that never fail

A condition that compares cells only with literals that their columns take, and matches only texts
with patterns, becomes a predicate, and no row of its table makes the predicate fail: a cell is null
or of the kind of its column, and so is the value that it is compared with.
-/

namespace SqlEngine

/-! ## Columns by their names -/

/-- The columns of a table have distinct names, so the name of a column finds it. -/
theorem Relation.Sound.column_eq_ok {relation : Relation} (sound : relation.Sound) {column : Column}
    {place : Nat} (here : relation.columns[place]? = some column) :
    relation.column column.name = .ok (column, place) := by
  have inside := List.mk_mem_zipIdx_iff_getElem?.mpr here
  unfold Relation.column
  split
  · rename_i first found
    obtain ⟨other, there⟩ := first
    have present := List.mk_mem_zipIdx_iff_getElem?.mp (List.mem_of_find?_eq_some found)
    have same : other.name = column.name := by simpa using List.find?_some found
    have shown : relation.columnNames[there]? = relation.columnNames[place]? := by
      simp [columnNames, present, here, same]
    have inside : there < relation.columnNames.length := by
      simpa [columnNames] using (List.getElem?_eq_some_iff.mp present).1
    obtain rfl : there = place := (List.getElem?_inj inside sound.names_nodup).mp shown
    rw [present] at here
    rw [Option.some.inj here]
  · rename_i missing
    have missed := List.find?_eq_none.mp missing _ inside
    simp at missed

/-! ## Predicates -/

theorem Value.Alike.exists_order {first second : Value} (alike : Alike first second) :
    ∃ order, first.compare? second = some order := by
  cases alike <;> simp [compare?, Binary64.compare?]

namespace Predicate

/-- Whether a predicate compares each column with a value that its type holds, and matches texts
only. -/
inductive Typed (relation : Relation) : Predicate → Prop where
  /-- All of several conditions. -/
  | all {conditions : List Predicate} (each : ∀ condition ∈ conditions, Typed relation condition) :
      Typed relation (.all conditions)
  /-- Any of several conditions. -/
  | any {conditions : List Predicate} (each : ∀ condition ∈ conditions, Typed relation condition) :
      Typed relation (.any conditions)
  /-- A comparison with a value that the type of the column holds. -/
  | compare {column : Column} {place : Nat} (here : relation.columns[place]? = some column)
      (comparison : Comparison) {value : Value} (held : column.type.Holds value) :
      Typed relation (.compare place comparison value)
  /-- A match of a text with a pattern. -/
  | like {column : Column} {place : Nat} (here : relation.columns[place]? = some column)
      (texts : column.type = .text ∨ ∃ limit, column.type = .varchar limit) (pattern : List Char) :
      Typed relation (.like place pattern)
  /-- Membership in a list of any values. -/
  | isIn {place : Nat} (inside : place < relation.columns.length) (values : List Value) :
      Typed relation (.isIn place values)
  /-- A test for null. -/
  | isNull {place : Nat} (inside : place < relation.columns.length) : Typed relation (.isNull place)
  /-- A test for a value. -/
  | isNotNull {place : Nat} (inside : place < relation.columns.length) :
      Typed relation (.isNotNull place)

variable {relation : Relation} {row : Row} {conditions : List Predicate}

theorem comparesWith_eq_ok {type : ColumnType} {cell value : Value} (cell_held : type.Holds cell)
    (held : type.Holds value) (comparison : Comparison) :
    ∃ truth, comparesWith comparison cell value = .ok truth := by
  unfold comparesWith
  split
  · exact ⟨false, rfl⟩
  · rename_i filled
    simp only [Bool.or_eq_true, Value.isNull_iff, not_or] at filled
    have alike := ColumnType.alike_of_holds cell_held held filled.1 filled.2
    obtain ⟨order, compared⟩ := alike.exists_order
    exact ⟨comparison.holds order, by rw [compared]⟩

theorem isLike_eq_ok {type : ColumnType} (texts : type = .text ∨ ∃ limit, type = .varchar limit)
    {cell : Value} (held : type.Holds cell) (pattern : List Char) :
    ∃ truth, isLike pattern cell = .ok truth := by
  by_cases null : cell = .null
  · exact ⟨false, by rw [null, isLike]⟩
  · have suits := ColumnType.suits_of_holds held null
    obtain ⟨content, rfl⟩ : ∃ content, cell = .text content := by
      rcases texts with rfl | ⟨limit, rfl⟩
      · exact suits
      · exact suits
    exact ⟨_, rfl⟩

theorem allHold_eq_ok (each : ∀ condition ∈ conditions, ∃ truth, condition.holds row = .ok truth) :
    ∃ truth, allHold row conditions = .ok truth := by
  induction conditions with
  | nil => exact ⟨true, rfl⟩
  | cons condition conditions induction =>
      obtain ⟨⟨met, first⟩, others⟩ := List.forall_mem_cons.mp each
      obtain ⟨truth, rest⟩ := induction others
      cases met with
      | true => exact ⟨truth, Checked.bind_eq_ok.mpr ⟨true, first, rest⟩⟩
      | false => exact ⟨false, Checked.bind_eq_ok.mpr ⟨false, first, rfl⟩⟩

theorem anyHolds_eq_ok (each : ∀ condition ∈ conditions, ∃ truth, condition.holds row = .ok truth) :
    ∃ truth, anyHolds row conditions = .ok truth := by
  induction conditions with
  | nil => exact ⟨false, rfl⟩
  | cons condition conditions induction =>
      obtain ⟨⟨met, first⟩, others⟩ := List.forall_mem_cons.mp each
      obtain ⟨truth, rest⟩ := induction others
      cases met with
      | true => exact ⟨true, Checked.bind_eq_ok.mpr ⟨true, first, rfl⟩⟩
      | false => exact ⟨truth, Checked.bind_eq_ok.mpr ⟨false, first, rest⟩⟩

/-- A row that fits its table does not make a typed predicate fail. -/
theorem Typed.holds_eq_ok {predicate : Predicate} (typed : predicate.Typed relation)
    (fits : relation.Fits row) : ∃ truth, predicate.holds row = .ok truth := by
  have cell {place : Nat} (inside : place < relation.columns.length) :
      ∃ value, row.cell place = .ok value ∧ row[place]? = some value := by
    rw [← fits.length_eq] at inside
    exact ⟨row[place], Row.cell_eq_ok.mpr (List.getElem?_eq_getElem inside),
      List.getElem?_eq_getElem inside⟩
  have held {column : Column} {place : Nat} (here : relation.columns[place]? = some column) :
      ∃ value, row.cell place = .ok value ∧ column.type.Holds value := by
    obtain ⟨value, found, there⟩ := cell (List.getElem?_eq_some_iff.mp here).1
    exact ⟨value, found, (fits.admits here there).1⟩
  induction typed with
  | all _ induction => exact allHold_eq_ok induction
  | any _ induction => exact anyHolds_eq_ok induction
  | compare here comparison value_held =>
      obtain ⟨value, found, cell_held⟩ := held here
      obtain ⟨truth, compared⟩ := comparesWith_eq_ok cell_held value_held comparison
      exact ⟨truth, Checked.bind_eq_ok.mpr ⟨value, found, compared⟩⟩
  | like here texts pattern =>
      obtain ⟨value, found, cell_held⟩ := held here
      obtain ⟨truth, matched⟩ := isLike_eq_ok texts cell_held pattern
      exact ⟨truth, Checked.bind_eq_ok.mpr ⟨value, found, matched⟩⟩
  | isIn inside values =>
      obtain ⟨value, found, -⟩ := cell inside
      exact ⟨_, Checked.bind_eq_ok.mpr ⟨value, found, rfl⟩⟩
  | isNull inside =>
      obtain ⟨value, found, -⟩ := cell inside
      exact ⟨_, Checked.bind_eq_ok.mpr ⟨value, found, rfl⟩⟩
  | isNotNull inside =>
      obtain ⟨value, found, -⟩ := cell inside
      exact ⟨_, Checked.bind_eq_ok.mpr ⟨value, found, rfl⟩⟩

end Predicate

/-! ## Conditions -/

namespace Tree

/-- Whether a condition is about columns of a table, compares them only with literals that their
types take, and matches texts only with patterns.  Of the literals in a list nothing is asked but
what `listed` says. -/
inductive WellTyped (listed : Tree → Prop) (now : Timestamp) (relation : Relation) :
    Tree → Prop where
  /-- All of several conditions. -/
  | allOf (lexeme : String) {conditions : List Tree}
      (each : ∀ condition ∈ conditions, WellTyped listed now relation condition) :
      WellTyped listed now relation ⟨.allOf, lexeme, conditions⟩
  /-- Any of several conditions. -/
  | anyOf (lexeme : String) {conditions : List Tree}
      (each : ∀ condition ∈ conditions, WellTyped listed now relation condition) :
      WellTyped listed now relation ⟨.anyOf, lexeme, conditions⟩
  /-- A comparison with a literal that the type of the column takes. -/
  | comparison {token : Token} {comparison : Comparison}
      (kind : Comparison.ofToken? token = some comparison) (lexeme : String) {column : Column}
      {place : Nat} (here : relation.columns[place]? = some column) {literal : Tree} {value : Value}
      (taken : literal.typedValue now column.type = .ok value) :
      WellTyped listed now relation ⟨token, lexeme, [⟨.identifier, column.name, []⟩, literal]⟩
  /-- A match of a text with a pattern. -/
  | like (lexeme : String) {column : Column} {place : Nat}
      (here : relation.columns[place]? = some column)
      (texts : column.type = .text ∨ ∃ limit, column.type = .varchar limit) (pattern : String) :
      WellTyped listed now relation
        ⟨.like, lexeme, [⟨.identifier, column.name, []⟩, ⟨.stringLit, pattern, []⟩]⟩
  /-- Membership in a list. -/
  | inList (lexeme : String) {column : Column} {place : Nat}
      (here : relation.columns[place]? = some column) {literals : List Tree}
      (each : ∀ literal ∈ literals, listed literal) :
      WellTyped listed now relation
        ⟨.inList, lexeme, ⟨.identifier, column.name, []⟩ :: literals⟩
  /-- A test for null, or for a value. -/
  | nullTest {token : Token} (kind : token = .isNull ∨ token = .isNotNull) (lexeme : String)
      {column : Column} {place : Nat} (here : relation.columns[place]? = some column) :
      WellTyped listed now relation ⟨token, lexeme, [⟨.identifier, column.name, []⟩]⟩

/-- Whether a literal has a value: a number with a point can be read, and one without is not too
large for an integer. -/
def HasValue (now : Timestamp) (literal : Tree) : Prop :=
  ∃ value, literal.literalValue now = .ok value

end Tree

namespace Predicate

variable {now : Timestamp} {relation : Relation} {column : Column} {place : Nat}

theorem ofTrees_of_forall₂ {trees : List Tree} {predicates : List Predicate}
    (made : List.Forall₂ (fun tree predicate => ofTree now relation tree = .ok predicate)
      trees predicates) : ofTrees now relation trees = .ok predicates := by
  induction made with
  | nil => rw [ofTrees]; rfl
  | cons first _ induction =>
      rw [ofTrees, first, induction]
      rfl

theorem exists_typed {trees : List Tree} (each : ∀ tree ∈ trees,
      ∃ predicate, ofTree now relation tree = .ok predicate ∧ predicate.Typed relation) :
    ∃ predicates, ofTrees now relation trees = .ok predicates ∧
      ∀ predicate ∈ predicates, predicate.Typed relation := by
  obtain ⟨predicates, made⟩ := Checked.exists_forall₂ each
  refine ⟨predicates, ofTrees_of_forall₂ (made.imp fun _ _ => And.left), fun predicate member => ?_⟩
  obtain ⟨tree, -, -, typed⟩ := Checked.exists_of_mem_right made member
  exact typed

theorem subject_eq_ok (sound : relation.Sound) (here : relation.columns[place]? = some column)
    (lexeme : String) (operands : List Tree) :
    subject relation lexeme (⟨.identifier, column.name, []⟩ :: operands) =
      .ok ((column, place), operands) := by
  rw [subject, sound.column_eq_ok here]
  rfl

theorem ofTree_of_comparison {token : Token} {comparison : Comparison}
    (kind : Comparison.ofToken? token = some comparison) (lexeme : String)
    (children : List Tree) :
    ofTree now relation ⟨token, lexeme, children⟩ =
      ofComparison now relation comparison lexeme children := by
  unfold ofTree
  split
  case h_7 => rw [kind]
  all_goals contradiction

theorem operand_of_typedValue {literal : Tree} {value : Value}
    (taken : literal.typedValue now column.type = .ok value) :
    operand now column literal = .ok value := by
  obtain ⟨given, read, converted⟩ := Checked.bind_eq_ok.mp taken
  refine Checked.bind_eq_ok.mpr ⟨given, read, ?_⟩
  rw [converted]
  rfl

theorem exists_operand (column : Column) {literal : Tree} (valued : literal.HasValue now) :
    ∃ value, operand now column literal = .ok value := by
  obtain ⟨given, read⟩ := valued
  cases converted : column.type.coerce given with
  | ok typed =>
      have taken : literal.typedValue now column.type = .ok typed :=
        Checked.bind_eq_ok.mpr ⟨given, read, converted⟩
      exact ⟨typed, operand_of_typedValue taken⟩
  | error fault =>
      refine ⟨given, Checked.bind_eq_ok.mpr ⟨given, read, ?_⟩⟩
      rw [converted]
      rfl

/-- A condition that makes sense becomes a typed predicate. -/
theorem typed_of_wellTyped (sound : relation.Sound) {tree : Tree}
    (wellTyped : tree.WellTyped (Tree.HasValue now) now relation) :
    ∃ predicate, ofTree now relation tree = .ok predicate ∧ predicate.Typed relation := by
  induction wellTyped with
  | allOf lexeme _ induction =>
      obtain ⟨predicates, made, typed⟩ := exists_typed induction
      exact ⟨.all predicates, by rw [ofTree, made]; rfl, .all typed⟩
  | anyOf lexeme _ induction =>
      obtain ⟨predicates, made, typed⟩ := exists_typed induction
      exact ⟨.any predicates, by rw [ofTree, made]; rfl, .any typed⟩
  | @comparison token comparison kind lexeme column place here literal value taken =>
      refine ⟨_, ?_, .compare here comparison (Tree.holds_of_typedValue taken)⟩
      rw [ofTree_of_comparison kind, ofComparison, subject_eq_ok sound here]
      exact Checked.bind_eq_ok.mpr
        ⟨_, rfl, Checked.bind_eq_ok.mpr ⟨value, operand_of_typedValue taken, rfl⟩⟩
  | like lexeme here texts pattern =>
      refine ⟨_, ?_, .like here texts pattern.toList⟩
      rw [ofTree, ofLike, subject_eq_ok sound here]
      rfl
  | @inList lexeme column place here literals each =>
      obtain ⟨values, made⟩ :=
        Checked.exists_forall₂ fun literal member => exists_operand column (each literal member)
      refine ⟨_, ?_, .isIn (List.getElem?_eq_some_iff.mp here).1 values⟩
      rw [ofTree, ofIn, subject_eq_ok sound here]
      exact Checked.bind_eq_ok.mpr
        ⟨_, rfl, Checked.bind_eq_ok.mpr ⟨values, Checked.mapM_eq_ok.mpr made, rfl⟩⟩
  | nullTest kind lexeme here =>
      have inside := (List.getElem?_eq_some_iff.mp here).1
      rcases kind with rfl | rfl
      · refine ⟨_, ?_, .isNull inside⟩
        rw [ofTree, ofNullTest, subject_eq_ok sound here]
        rfl
      · refine ⟨_, ?_, .isNotNull inside⟩
        rw [ofTree, ofNullTest, subject_eq_ok sound here]
        rfl

end Predicate

/-- Behind every history, a condition on the rows of a table that compares cells with literals that
the types of their columns take, matches texts only with patterns, and asks of lists only that each
literal has a value, becomes a predicate, and every row of the table meets it or does not. -/
theorem well_typed_never_fails_after_calls (history : List (Timestamp × Call)) (now : Timestamp)
    {name : String} {relation : Relation}
    (found : (Database.empty.calls history).find? name = some relation) (lexeme : String)
    {condition : Tree} (wellTyped : condition.WellTyped (Tree.HasValue now) now relation) :
    ∃ predicate,
      Predicate.ofClause now relation (some ⟨.whereClause, lexeme, [condition]⟩) = .ok predicate ∧
      ∀ row ∈ relation.rows, ∃ truth, predicate.holds row = .ok truth := by
  obtain ⟨-, sound⟩ := Database.sound_empty.calls history name relation found
  obtain ⟨predicate, made, typed⟩ := Predicate.typed_of_wellTyped sound wellTyped
  exact ⟨predicate, made, fun row member => typed.holds_eq_ok (sound.rows_fit row member)⟩

/-- A table of numbers, texts and days. -/
def listing : Relation where
  name := "t"
  columns := [.ofType "a" .integer, .ofType "s" (.varchar 3), .ofType "d" .date]
  rows := [[.integer 1, .text "xy", .null]]

/-- How the table of numbers, texts and days was made. -/
def madeListing : List (Timestamp × Call) :=
  [(Date.atMidnight ⟨1970, 1, 1, by decide⟩, .script
    "CREATE TABLE t (a INT, s VARCHAR(3), d DATE); INSERT INTO t VALUES (1, 'xy', NULL)")]

theorem find?_listing : (Database.empty.calls madeListing).find? "t" = some listing := by
  decide +kernel

/-- A condition of all kinds of tests. -/
theorem well_typed_of_listing :
    let now := Date.atMidnight ⟨1970, 1, 1, by decide⟩
    let text := "WHERE a <= 1 AND s LIKE 'x%' OR d > '2024-01-01' AND a IN (2, 'x') OR d IS NULL"
    ∃ condition, Scan.whole Grammar.whereClause text =
        some ⟨.whereClause, "WHERE", [condition]⟩ ∧
      condition.WellTyped (Tree.HasValue now) now listing ∧
      ∃ predicate, Predicate.ofClause now listing (some ⟨.whereClause, "WHERE", [condition]⟩) =
          .ok predicate ∧
        ∀ row ∈ listing.rows, ∃ truth, predicate.holds row = .ok truth := by
  intro now text
  let column (name : String) : Tree := ⟨.identifier, name, []⟩
  let condition : Tree := ⟨.anyOf, "OR", [
    ⟨.allOf, "AND", [⟨.lessOrEqual, "<=", [column "a", ⟨.number, "1", []⟩]⟩,
      ⟨.like, "LIKE", [column "s", ⟨.stringLit, "x%", []⟩]⟩]⟩,
    ⟨.allOf, "AND", [⟨.greater, ">", [column "d", ⟨.stringLit, "2024-01-01", []⟩]⟩,
      ⟨.inList, "IN", [column "a", ⟨.number, "2", []⟩, ⟨.stringLit, "x", []⟩]⟩]⟩,
    ⟨.isNull, "IS NULL", [column "d"]⟩]⟩
  have read : Scan.whole Grammar.whereClause text = some ⟨.whereClause, "WHERE", [condition]⟩ := by
    decide +kernel
  have succeeds {outcome : Except Error Value} (ok : outcome.isOk = true) :
      ∃ value, outcome = .ok value := by
    cases outcome with
    | ok value => exact ⟨value, rfl⟩
    | error fault => contradiction
  have a : listing.columns[0]? = some (.ofType "a" .integer) := rfl
  have s : listing.columns[1]? = some (.ofType "s" (.varchar 3)) := rfl
  have d : listing.columns[2]? = some (.ofType "d" .date) := rfl
  obtain ⟨_, one⟩ := succeeds
    (by decide +kernel : (Tree.typedValue now .integer ⟨.number, "1", []⟩).isOk = true)
  obtain ⟨_, day⟩ := succeeds
    (by decide +kernel : (Tree.typedValue now .date ⟨.stringLit, "2024-01-01", []⟩).isOk = true)
  obtain ⟨_, two⟩ := succeeds
    (by decide +kernel : (Tree.literalValue now ⟨.number, "2", []⟩).isOk = true)
  have wellTyped : condition.WellTyped (Tree.HasValue now) now listing := by
    simp only [condition]
    refine .anyOf "OR" (List.forall_mem_cons.mpr ⟨.allOf "AND" (List.forall_mem_cons.mpr ⟨?_,
      List.forall_mem_singleton.mpr ?_⟩), List.forall_mem_cons.mpr ⟨.allOf "AND"
      (List.forall_mem_cons.mpr ⟨?_, List.forall_mem_singleton.mpr ?_⟩),
      List.forall_mem_singleton.mpr ?_⟩⟩)
    · exact .comparison rfl "<=" a one
    · exact .like "LIKE" s (.inr ⟨3, rfl⟩) "x%"
    · exact .comparison rfl ">" d day
    · exact .inList "IN" a (List.forall_mem_cons.mpr ⟨⟨_, two⟩,
        List.forall_mem_singleton.mpr ⟨_, rfl⟩⟩)
    · exact .nullTest (.inl rfl) "IS NULL" d
  exact ⟨condition, read, wellTyped,
    well_typed_never_fails_after_calls madeListing now find?_listing "WHERE" wellTyped⟩

/-- A list may have an integer in it that is too large: it is a literal, but has no value, so that
the condition does not become a predicate. -/
theorem large_integer_in_list :
    let now := Date.atMidnight ⟨1970, 1, 1, by decide⟩
    let condition : Tree :=
      ⟨.inList, "IN", [⟨.identifier, "a", []⟩, ⟨.number, "99999999999999999999", []⟩]⟩
    (Database.empty.calls madeListing).find? "t" = some listing ∧
    Scan.whole Grammar.whereClause "WHERE a IN (99999999999999999999)" =
      some ⟨.whereClause, "WHERE", [condition]⟩ ∧
    condition.WellTyped Tree.IsLiteral now listing ∧
    Predicate.ofClause now listing (some ⟨.whereClause, "WHERE", [condition]⟩) =
      .error (.parse (.number "99999999999999999999")) := by
  intro now condition
  have large : Numeral.integer? "99999999999999999999".toList = none := by decide +kernel
  refine ⟨find?_listing, by decide +kernel, ?_, ?_⟩
  · have a : listing.columns[0]? = some (.ofType "a" .integer) := rfl
    exact .inList "IN" a (List.forall_mem_singleton.mpr (.literal (by decide) _))
  · have no_value : Tree.literalValue now ⟨.number, "99999999999999999999", []⟩ =
        .error (.parse (.number "99999999999999999999")) := by
      simp only [Tree.literalValue, Tree.numberValue]
      rw [if_neg (by decide +kernel), large]
      rfl
    have refused : Predicate.ofTree now listing condition =
        .error (.parse (.number "99999999999999999999")) := by
      have subjected : Predicate.subject listing "IN" condition.children =
          .ok ((.ofType "a" .integer, 0), [⟨.number, "99999999999999999999", []⟩]) := by
        decide +kernel
      simp only [condition] at subjected ⊢
      rw [Predicate.ofTree, Predicate.ofIn, subjected]
      refine Checked.bind_eq_error.mpr (.inr ⟨_, rfl, Checked.bind_eq_error.mpr (.inl ?_)⟩)
      rw [List.mapM_cons, Predicate.operand, no_value]
      rfl
    exact refused

end SqlEngine
