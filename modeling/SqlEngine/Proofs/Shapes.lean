import SqlEngine.Statement.Tree

/-!
# Shapes of statements

A statement has one of a few shapes.  Each says which children a node has and in what order, down to
the leaves, so that no statement is deeper than six nodes, however long the text is that it was read
from.
-/

namespace SqlEngine
namespace Tree

/-! ## Depth -/

mutual

/-- The number of nodes on the longest way down a tree. -/
def depth : Tree → Nat
  | ⟨_, _, children⟩ => depths children + 1

/-- The depth of the deepest of several trees. -/
def depths : List Tree → Nat
  | [] => 0
  | tree :: trees => max tree.depth (depths trees)

end

theorem depths_append (front back : List Tree) :
    depths (front ++ back) = max (depths front) (depths back) := by
  induction front with
  | nil => simp [depths]
  | cons tree front induction => simp only [List.cons_append, depths, induction, Nat.max_assoc]

theorem depths_le {trees : List Tree} {bound : Nat} (all : ∀ tree ∈ trees, tree.depth ≤ bound) :
    depths trees ≤ bound := by
  induction trees with
  | nil => exact Nat.zero_le bound
  | cons tree trees induction =>
      obtain ⟨first, others⟩ := List.forall_mem_cons.mp all
      exact Nat.max_le.mpr ⟨first, induction others⟩

/-! ## Literals and conditions -/

/-- Nodes with a given token and nothing below them. -/
inductive IsLeaf (token : Token) : Tree → Prop where
  /-- The text may be any. -/
  | leaf (lexeme : String) : IsLeaf token ⟨token, lexeme, []⟩

/-- The tokens of literals. -/
def literalTokens : List Token :=
  [.nullWord, .trueWord, .falseWord, .now, .stringLit, .number]

/-- Literals. -/
inductive IsLiteral : Tree → Prop where
  /-- A literal has nothing below it. -/
  | literal {token : Token} (kind : token ∈ literalTokens) (lexeme : String) :
      IsLiteral ⟨token, lexeme, []⟩

/-- The tokens of tests of a column against one value. -/
def comparisonTokens : List Token :=
  [.equal, .notEqual, .less, .lessOrEqual, .greater, .greaterOrEqual, .like]

/-- Tests of one column. -/
inductive IsTest : Tree → Prop where
  /-- A column against a value. -/
  | comparison {token : Token} (kind : token ∈ comparisonTokens) (lexeme : String)
      {column value : Tree} (name : IsLeaf .identifier column) (literal : IsLiteral value) :
      IsTest ⟨token, lexeme, [column, value]⟩
  /-- A column that is null or not. -/
  | nullTest {token : Token} (kind : token = .isNull ∨ token = .isNotNull) (lexeme : String)
      {column : Tree} (name : IsLeaf .identifier column) : IsTest ⟨token, lexeme, [column]⟩
  /-- A column against a list of values. -/
  | membership (lexeme : String) {column : Tree} {values : List Tree}
      (name : IsLeaf .identifier column) (literals : ∀ value ∈ values, IsLiteral value) :
      IsTest ⟨.inList, lexeme, column :: values⟩

/-- A condition alone, or a node above at least two of them. -/
inductive Joins (token : Token) (part : Tree → Prop) : Tree → Prop where
  /-- The node above is left out. -/
  | alone {tree : Tree} (only : part tree) : Joins token part tree
  /-- The node above all. -/
  | node (lexeme : String) {children : List Tree} (several : 2 ≤ children.length)
      (parts : ∀ child ∈ children, part child) : Joins token part ⟨token, lexeme, children⟩

/-- Conditions: groups joined by OR, of tests joined by AND. -/
abbrev IsCondition : Tree → Prop :=
  Joins .anyOf (Joins .allOf IsTest)

/-- The clause of a condition. -/
inductive IsWhere : Tree → Prop where
  /-- A clause has one condition. -/
  | clause (lexeme : String) {condition : Tree} (holds : IsCondition condition) :
      IsWhere ⟨.whereClause, lexeme, [condition]⟩

/-! ## Columns and rows -/

/-- Types of columns. -/
inductive IsType : Tree → Prop where
  /-- A type has a length or none. -/
  | type (lexeme : String) {length : Option Tree} (number : ∀ node ∈ length, IsLeaf .number node) :
      IsType ⟨.typeName, lexeme, length.toList⟩

/-- The tokens of constraints without a value. -/
def markTokens : List Token :=
  [.notNull, .primaryKey, .unique, .autoIncrement]

/-- Constraints of columns. -/
inductive IsConstraint : Tree → Prop where
  /-- A constraint without a value. -/
  | mark {token : Token} (kind : token ∈ markTokens) (lexeme : String) :
      IsConstraint ⟨token, lexeme, []⟩
  /-- A default. -/
  | default (lexeme : String) {value : Tree} (literal : IsLiteral value) :
      IsConstraint ⟨.defaultValue, lexeme, [value]⟩

/-- Whether the constraints of a column stand in the order of their table, each at most once. -/
def InTableOrder (constraints : List Token) : Prop :=
  constraints.Sublist (markTokens ++ [.defaultValue])

instance : DecidablePred InTableOrder := fun constraints =>
  inferInstanceAs (Decidable (constraints.Sublist _))

/-- Constraints of a column may stand in any order, and more than once. -/
def InAnyOrder (_ : List Token) : Prop :=
  True

/-- Columns of a new table, with constraints that are arranged in a given way. -/
inductive IsColumn (arranged : List Token → Prop) : Tree → Prop where
  /-- A column has a type and constraints behind it. -/
  | column (lexeme : String) {type : Tree} {constraints : List Tree} (typed : IsType type)
      (constrained : ∀ constraint ∈ constraints, IsConstraint constraint)
      (order : arranged (constraints.map (·.token))) :
      IsColumn arranged ⟨.columnDef, lexeme, type :: constraints⟩

/-- Rows to add. -/
inductive IsTuple : Tree → Prop where
  /-- A row has literals. -/
  | tuple (lexeme : String) {values : List Tree} (literals : ∀ value ∈ values, IsLiteral value) :
      IsTuple ⟨.tuple, lexeme, values⟩

/-- Changes to a row. -/
inductive IsAssignment : Tree → Prop where
  /-- A change has a column and its new value. -/
  | assign (lexeme : String) {column value : Tree} (name : IsLeaf .identifier column)
      (literal : IsLiteral value) : IsAssignment ⟨.assign, lexeme, [column, value]⟩

/-! ## Clauses of queries -/

/-- What a query shows. -/
inductive IsProjection : Tree → Prop where
  /-- All columns, or the number of rows. -/
  | whole {token : Token} (kind : token = .star ∨ token = .count) (lexeme : String) {shown : Tree}
      (leaf : IsLeaf token shown) : IsProjection ⟨.projection, lexeme, [shown]⟩
  /-- Columns by name. -/
  | columns (lexeme : String) {shown : List Tree} (filled : shown ≠ [])
      (names : ∀ column ∈ shown, IsLeaf .identifier column) :
      IsProjection ⟨.projection, lexeme, shown⟩

/-- Orders of rows. -/
inductive IsOrder : Tree → Prop where
  /-- An order has a column, and the column a direction. -/
  | order {token : Token} (kind : token = .asc ∨ token = .desc) (lexeme name : String)
      {direction : Tree} (leaf : IsLeaf token direction) :
      IsOrder ⟨.order, lexeme, [⟨.identifier, name, [direction]⟩]⟩

/-- Clauses with a number of rows. -/
inductive IsRowCount (token : Token) : Tree → Prop where
  /-- A clause has one number. -/
  | count (lexeme : String) {number : Tree} (leaf : IsLeaf .number number) :
      IsRowCount token ⟨token, lexeme, [number]⟩

/-! ## Statements -/

/-- The tokens of statements that control transactions. -/
def controlTokens : List Token :=
  [.beginTx, .commit, .rollback]

/-- The shapes of statements, for a way to arrange the constraints of a column. -/
inductive Shaped (arranged : List Token → Prop) : Tree → Prop where
  /-- A database is made. -/
  | createDatabase (lexeme target : String) {guard : Option Tree} {name : Tree}
      (guarded : ∀ node ∈ guard, IsLeaf .ifNotExists node) (named : IsLeaf .identifier name) :
      Shaped arranged ⟨.create, lexeme, [⟨.database, target, guard.toList ++ [name]⟩]⟩
  /-- A table is made. -/
  | createTable (lexeme target name : String) {guard : Option Tree} {columns : List Tree}
      (guarded : ∀ node ∈ guard, IsLeaf .ifNotExists node) (filled : columns ≠ [])
      (defined : ∀ column ∈ columns, IsColumn arranged column) :
      Shaped arranged
        ⟨.create, lexeme, [⟨.table, target, guard.toList ++ [⟨.identifier, name, columns⟩]⟩]⟩
  /-- A table or a database is removed. -/
  | drop {token : Token} (kind : token = .table ∨ token = .database) (lexeme target : String)
      {name : Tree} (named : IsLeaf .identifier name) :
      Shaped arranged ⟨.drop, lexeme, [⟨token, target, [name]⟩]⟩
  /-- A table is emptied. -/
  | truncate (lexeme target : String) {name : Tree} (named : IsLeaf .identifier name) :
      Shaped arranged ⟨.truncate, lexeme, [⟨.table, target, [name]⟩]⟩
  /-- Rows are added. -/
  | insert (lexeme into name list : String) {columns tuples : List Tree}
      (names : ∀ column ∈ columns, IsLeaf .identifier column)
      (rows : ∀ tuple ∈ tuples, IsTuple tuple) :
      Shaped arranged
        ⟨.insert, lexeme, [⟨.into, into, [⟨.identifier, name, columns⟩]⟩, ⟨.values, list, tuples⟩]⟩
  /-- Rows are asked for. -/
  | select (lexeme source : String) {projection name : Tree}
      {filter order limit offset : Option Tree}
      (shows : IsProjection projection) (named : IsLeaf .identifier name)
      (filters : ∀ clause ∈ filter, IsWhere clause) (orders : ∀ clause ∈ order, IsOrder clause)
      (limits : ∀ clause ∈ limit, IsRowCount .limit clause)
      (offsets : ∀ clause ∈ offset, IsRowCount .offset clause) :
      Shaped arranged
        ⟨.select, lexeme, [projection, ⟨.fromTable, source, [name]⟩]
          ++ filter.toList ++ order.toList ++ limit.toList ++ offset.toList⟩
  /-- Rows are changed. -/
  | update (lexeme set : String) {name : Tree} {changes : List Tree} {filter : Option Tree}
      (named : IsLeaf .identifier name) (changed : ∀ change ∈ changes, IsAssignment change)
      (filters : ∀ clause ∈ filter, IsWhere clause) :
      Shaped arranged
        ⟨.update, lexeme, [name, ⟨.assignments, set, changes⟩] ++ filter.toList⟩
  /-- Rows are removed. -/
  | delete (lexeme source : String) {name : Tree} {filter : Option Tree}
      (named : IsLeaf .identifier name) (filters : ∀ clause ∈ filter, IsWhere clause) :
      Shaped arranged ⟨.delete, lexeme, ⟨.fromTable, source, [name]⟩ :: filter.toList⟩
  /-- A transaction is controlled. -/
  | control {token : Token} (kind : token ∈ controlTokens) (lexeme : String) :
      Shaped arranged ⟨token, lexeme, []⟩

/-! ## Depth of shapes -/

section Depth

variable {tree : Tree} {token : Token} {arranged : List Token → Prop}

theorem depths_le_of_part {part : Tree → Prop} {bound : Nat} {found : Option Tree}
    (parts : ∀ child ∈ found, part child) (bounded : ∀ {child}, part child → child.depth ≤ bound) :
    depths found.toList ≤ bound :=
  depths_le fun child member => bounded (parts child (Option.mem_toList.mp member))

theorem IsLeaf.depth_le (leaf : IsLeaf token tree) : tree.depth ≤ 1 := by
  cases leaf
  exact Nat.le_refl 1

theorem IsLiteral.depth_le (literal : IsLiteral tree) : tree.depth ≤ 1 := by
  cases literal
  exact Nat.le_refl 1

theorem IsTest.depth_le (test : IsTest tree) : tree.depth ≤ 2 := by
  cases test with
  | comparison _ _ name literal =>
      have column := name.depth_le
      have value := literal.depth_le
      simp only [depth, depths]
      omega
  | nullTest _ _ name =>
      have column := name.depth_le
      simp only [depth, depths]
      omega
  | membership _ name literals =>
      have column := name.depth_le
      have values := depths_le fun value member => (literals value member).depth_le
      simp only [depth, depths]
      omega

theorem Joins.depth_le {part : Tree → Prop} {bound : Nat} (joins : Joins token part tree)
    (parts : ∀ {child}, part child → child.depth ≤ bound) : tree.depth ≤ bound + 1 := by
  cases joins with
  | alone only => exact Nat.le_succ_of_le (parts only)
  | node _ _ all => exact Nat.succ_le_succ (depths_le fun child member => parts (all child member))

theorem IsWhere.depth_le (clause : IsWhere tree) : tree.depth ≤ 5 := by
  cases clause with
  | clause _ holds =>
      have condition := holds.depth_le fun group => group.depth_le IsTest.depth_le
      simp only [depth, depths]
      omega

theorem IsType.depth_le (type : IsType tree) : tree.depth ≤ 2 := by
  cases type with
  | type _ number => exact Nat.succ_le_succ (depths_le_of_part number IsLeaf.depth_le)

theorem IsConstraint.depth_le (constraint : IsConstraint tree) : tree.depth ≤ 2 := by
  cases constraint with
  | mark => simp [depth, depths]
  | default _ literal =>
      have value := literal.depth_le
      simp only [depth, depths]
      omega

theorem IsColumn.depth_le (column : IsColumn arranged tree) : tree.depth ≤ 3 := by
  cases column with
  | column _ typed constrained =>
      have type := typed.depth_le
      have others := depths_le fun child member => (constrained child member).depth_le
      simp only [depth, depths]
      omega

theorem IsTuple.depth_le (tuple : IsTuple tree) : tree.depth ≤ 2 := by
  cases tuple with
  | tuple _ literals =>
      exact Nat.succ_le_succ (depths_le fun value member => (literals value member).depth_le)

theorem IsAssignment.depth_le (assignment : IsAssignment tree) : tree.depth ≤ 2 := by
  cases assignment with
  | assign _ name literal =>
      have column := name.depth_le
      have value := literal.depth_le
      simp only [depth, depths]
      omega

theorem IsProjection.depth_le (projection : IsProjection tree) : tree.depth ≤ 2 := by
  cases projection with
  | whole _ _ leaf =>
      have shown := leaf.depth_le
      simp only [depth, depths]
      omega
  | columns _ _ names =>
      exact Nat.succ_le_succ (depths_le fun column member => (names column member).depth_le)

theorem IsOrder.depth_le (order : IsOrder tree) : tree.depth ≤ 3 := by
  cases order with
  | order _ _ _ leaf =>
      have direction := leaf.depth_le
      simp only [depth, depths]
      omega

theorem IsRowCount.depth_le (count : IsRowCount token tree) : tree.depth ≤ 2 := by
  cases count with
  | count _ leaf =>
      have number := leaf.depth_le
      simp only [depth, depths]
      omega

/-- A statement is at most six nodes deep. -/
theorem Shaped.depth_le (shaped : Shaped arranged tree) : tree.depth ≤ 6 := by
  cases shaped with
  | createDatabase _ _ guarded named =>
      have guard := depths_le_of_part guarded IsLeaf.depth_le
      have name := named.depth_le
      simp only [depth, depths, depths_append]
      omega
  | createTable _ _ _ guarded _ defined =>
      have guard := depths_le_of_part guarded IsLeaf.depth_le
      have columns := depths_le fun column member => (defined column member).depth_le
      simp only [depth, depths, depths_append]
      omega
  | drop _ _ _ named | truncate _ _ named =>
      have name := named.depth_le
      simp only [depth, depths]
      omega
  | insert _ _ _ _ names rows =>
      have columns := depths_le fun column member => (names column member).depth_le
      have tuples := depths_le fun tuple member => (rows tuple member).depth_le
      simp only [depth, depths]
      omega
  | select _ _ shows named filters orders limits offsets =>
      have projection := shows.depth_le
      have name := named.depth_le
      have filter := depths_le_of_part filters IsWhere.depth_le
      have order := depths_le_of_part orders IsOrder.depth_le
      have limit := depths_le_of_part limits IsRowCount.depth_le
      have offset := depths_le_of_part offsets IsRowCount.depth_le
      simp only [depth, depths, depths_append]
      omega
  | update _ _ named changed filters =>
      have name := named.depth_le
      have changes := depths_le fun change member => (changed change member).depth_le
      have filter := depths_le_of_part filters IsWhere.depth_le
      simp only [depth, depths, depths_append]
      omega
  | delete _ _ named filters =>
      have name := named.depth_le
      have filter := depths_le_of_part filters IsWhere.depth_le
      simp only [depth, depths]
      omega
  | control => simp [depth, depths]

end Depth

end Tree
end SqlEngine
