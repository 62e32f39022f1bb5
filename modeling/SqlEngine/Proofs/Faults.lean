import SqlEngine.Proofs.Failures
import SqlEngine.Proofs.Productions
import SqlEngine.Proofs.Replies

/-!
# Statements from text fit

A tree that has the shape of a statement has every part that is looked for when it is run.  What can
still go wrong lies in its names and values, or in the tables that it meets, and has nothing to do
with its form.
-/

namespace SqlEngine

/-- Whether a fault of a statement lies in its names, not in its form. -/
@[simp]
def ShapeFault.IsOrdinary : ShapeFault → Prop
  | unknownColumn _ _ | duplicateColumn _ | listedTwice _ | notInteger _ => True
  | argumentCount _ _ | tree _ | other _ => False

/-- Whether an error can come of a statement that was read from a text. -/
@[simp]
def Error.IsOrdinary : Error → Prop
  | shape fault => fault.IsOrdinary
  | parse _ | notFound _ | alreadyExists _ | columnCountMismatch | typeMismatch | constraint _
  | unsupported _ | unimplemented _ | noCell _ => True
  | config _ | engineStopped | timeout _ | outside _ | remote _ | broken => False

/-- Whether a computation only fails with errors that can come of a statement from a text. -/
abbrev Ordinary {α : Type} (outcome : Except Error α) : Prop :=
  Checked.Raises Error.IsOrdinary outcome

instance : Error.Allows Error.IsOrdinary where
  plain error plain := by
    cases error with
    | shape fault => cases fault <;> simp_all
    | _ => simp_all

open Checked SqlEngine.Tree

variable {now : Timestamp} {relation : Relation} {tree : Tree}

/-! ## Literals and columns -/

namespace Tree

theorem IsLiteral.ordinary_literalValue (literal : IsLiteral tree) (now : Timestamp) :
    Ordinary (tree.literalValue now) := by
  have number (lexeme : String) : Ordinary (numberValue lexeme) := by
    simp only [numberValue]
    split <;> simp
  obtain ⟨kind, lexeme⟩ := literal
  simp only [literalTokens, List.mem_cons, List.not_mem_nil, or_false] at kind
  rcases kind with rfl | rfl | rfl | rfl | rfl | rfl <;> simp [literalValue, number]

theorem IsLiteral.ordinary_typedValue (literal : IsLiteral tree) (now : Timestamp)
    (type : ColumnType) : Ordinary (tree.typedValue now type) := by
  simp [typedValue, literal.ordinary_literalValue]

theorem IsLeaf.identifier_eq (leaf : IsLeaf .identifier tree) (of : String) :
    identifier (some tree) of = .ok tree.lexeme := by
  obtain ⟨lexeme⟩ := leaf
  rfl

end Tree

namespace Column

theorem ordinary_constrain (constraint : IsConstraint tree) (column : Column) :
    Ordinary (column.constrain now tree) := by
  cases constraint with
  | mark kind lexeme =>
      simp only [markTokens, List.mem_cons, List.not_mem_nil, or_false] at kind
      rcases kind with rfl | rfl | rfl | rfl <;> simp [constrain]
  | default lexeme literal =>
      simp [constrain, onlyChild?, require, literal.ordinary_typedValue]

theorem ordinary_ofTree {arranged : List Token → Prop} (shaped : IsColumn arranged tree) :
    Ordinary (ofTree now tree) := by
  obtain ⟨lexeme, ⟨name, number⟩, constrained, -⟩ := shaped
  have type (tree : Tree) : Ordinary (typeOfTree tree) := by
    unfold typeOfTree
    repeat' split
    all_goals simp
  simp only [ofTree]
  simp [type,
    Raises.foldlM fun tree member => ordinary_constrain (constrained tree member)]

theorem ordinary_listOfTrees {arranged : List Token → Prop} {trees : List Tree}
    (shaped : ∀ tree ∈ trees, IsColumn arranged tree) (seen : List String) :
    Ordinary (listOfTrees now seen trees) := by
  induction trees generalizing seen with
  | nil => simp [listOfTrees]
  | cons tree trees induction =>
      obtain ⟨first, others⟩ := List.forall_mem_cons.mp shaped
      simp only [listOfTrees, Raises.bind_iff, ordinary_ofTree first, true_and]
      intro column _
      split <;> simp [induction others]

end Column

/-! ## Rows -/

namespace Relation

theorem ordinary_newRows {tuples : List Tree} (shaped : ∀ tuple ∈ tuples, IsTuple tuple)
    (targets : List (Column × Nat)) (numbering : Numbering) :
    Ordinary (relation.newRows now targets numbering tuples) := by
  induction tuples generalizing numbering with
  | nil => simp [newRows]
  | cons tuple tuples induction =>
      obtain ⟨first, others⟩ := List.forall_mem_cons.mp shaped
      have given : Ordinary (givenValues now targets tuple.children) := by
        obtain ⟨lexeme, literals⟩ := first
        refine Raises.mapM ?_
        rintro ⟨⟨column, place⟩, literal⟩ member
        simp [(literals literal (List.of_mem_zip member).2).ordinary_typedValue]
      simp only [newRows]
      split <;> simp [given, induction others]

theorem ordinary_assignment (shaped : IsAssignment tree) :
    Ordinary (relation.assignment now tree) := by
  obtain ⟨lexeme, name, literal⟩ := shaped
  simp [assignment, literal.ordinary_typedValue]

end Relation

/-! ## Predicates -/

namespace Predicate

theorem subject_bind {α : Type} {column : Tree} (name : IsLeaf .identifier column)
    (lexeme : String) (operands : List Tree)
    (next : (Column × Nat) × List Tree → Except Error α) :
    subject relation lexeme (column :: operands) >>= next =
      relation.column column.lexeme >>= fun found => next (found, operands) := by
  obtain ⟨lexeme⟩ := name
  simp [subject]

theorem ordinary_operand (literal : IsLiteral tree) (column : Column) :
    Ordinary (operand now column tree) := by
  simp only [operand, Raises.bind_iff, literal.ordinary_literalValue, true_and]
  intro value _
  split <;> simp

theorem ordinary_ofTest (test : IsTest tree) : Ordinary (ofTree now relation tree) := by
  cases test with
  | @comparison token kind lexeme column value name literal =>
      have compared (comparison : Comparison) :
          Ordinary (ofComparison now relation comparison lexeme [column, value]) := by
        simp [ofComparison, subject_bind name, ordinary_operand literal]
      have matched : Ordinary (ofLike now relation lexeme [column, value]) := by
        simp only [ofLike, subject_bind name, Raises.bind_iff, Relation.raises_column,
          literal.ordinary_literalValue, true_and]
        intro found _ pattern _
        split <;> simp
      simp only [comparisonTokens, List.mem_cons, List.not_mem_nil, or_false] at kind
      rcases kind with rfl | rfl | rfl | rfl | rfl | rfl | rfl
      all_goals simp [ofTree, Comparison.ofToken?, compared, matched]
  | nullTest kind lexeme name =>
      rcases kind with rfl | rfl <;> simp [ofTree, ofNullTest, subject_bind name]
  | @membership lexeme _ values name literals =>
      have values (column : Column) : Ordinary (values.mapM (operand now column)) :=
        Raises.mapM fun tree member => ordinary_operand (literals tree member) column
      simp [ofTree, ofIn, subject_bind name, values]

theorem ordinary_ofJoined {token : Token} (joining : token = .allOf ∨ token = .anyOf)
    {part : Tree → Prop} (parts : ∀ child, part child → Ordinary (ofTree now relation child))
    (joins : Joins token part tree) : Ordinary (ofTree now relation tree) := by
  cases joins with
  | alone only => exact parts tree only
  | node lexeme _ all =>
      have trees := raises_ofTrees fun child member => parts child (all child member)
      rcases joining with rfl | rfl <;> simp [ofTree, trees]

theorem ordinary_ofClause {clause : Option Tree} (filters : ∀ tree ∈ clause, IsWhere tree) :
    Ordinary (ofClause now relation clause) := by
  cases clause with
  | none => simp [ofClause]
  | some clause =>
      obtain ⟨lexeme, holds⟩ := filters clause rfl
      exact ordinary_ofJoined (.inr rfl)
        (fun group => ordinary_ofJoined (.inl rfl) fun test => ordinary_ofTest) holds

end Predicate

/-! ## Queries -/

theorem Projection.ordinary_ofTree (shows : IsProjection tree) :
    Ordinary (ofTree relation tree) := by
  cases shows with
  | whole kind lexeme leaf =>
      obtain ⟨shown⟩ := leaf
      rcases kind with rfl | rfl <;> simp [ofTree]
  | columns lexeme filled names =>
      obtain ⟨first, others, rfl⟩ := List.exists_cons_of_ne_nil filled
      have columns : Ordinary ((first :: others).mapM fun named => relation.column named.lexeme) :=
        Raises.mapM fun named _ => relation.raises_column named.lexeme
      obtain ⟨name⟩ := names first List.mem_cons_self
      simp only [ofTree, Raises.bind_iff, columns, Raises.pure, implies_true, and_self]

@[simp]
theorem Projection.ordinary_cells (rows : List Row) (projection : Projection) :
    Ordinary (projection.cells rows) := by
  cases projection with
  | count => simp [cells]
  | columns chosen =>
      exact Raises.mapM fun row _ => Raises.mapM fun entry _ => by simp

theorem ordinary_sortRows {rows : List Row} {clause : Option Tree}
    (orders : ∀ tree ∈ clause, IsOrder tree) : Ordinary (sortRows relation rows clause) := by
  cases clause with
  | none => simp [sortRows]
  | some clause =>
      obtain ⟨-, lexeme, name, -⟩ := orders clause rfl
      have keyed (place : Nat) : Ordinary (rows.mapM fun row => (·, row) <$> row.cell place) :=
        Raises.mapM fun row _ => by simp
      simp [sortRows, onlyChild?, require, keyed]

theorem ordinary_rowCount {token : Token} {clause : Option Tree}
    (counts : ∀ tree ∈ clause, IsRowCount token tree) : Ordinary (rowCount clause) := by
  cases clause with
  | none => simp [rowCount]
  | some clause =>
      obtain ⟨lexeme, leaf⟩ := counts clause rfl
      simp only [rowCount, onlyChild?, require]
      simp only [Raises.bind_iff, Raises.ok, true_and]
      intro number _
      split <;> simp

/-! ## Statements -/

namespace Tree

variable {token : Token} {lexeme source : String}

theorem IsLeaf.token_eq (leaf : IsLeaf token tree) : tree.token = token := by
  obtain ⟨lexeme⟩ := leaf
  rfl

theorem IsWhere.token_eq (clause : IsWhere tree) : tree.token = .whereClause := by
  obtain ⟨lexeme, holds⟩ := clause
  rfl

theorem IsOrder.token_eq (clause : IsOrder tree) : tree.token = .order := by
  obtain ⟨lexeme, name, leaf⟩ := clause
  rfl

theorem IsRowCount.token_eq (clause : IsRowCount token tree) : tree.token = token := by
  obtain ⟨lexeme, leaf⟩ := clause
  rfl

theorem IsProjection.token_eq (shows : IsProjection tree) : tree.token = .projection := by
  cases shows <;> rfl

/-- A clause that may be left out is found by its token, and only by it. -/
theorem find?_toList {part : Tree → Prop} (tokens : ∀ {node}, part node → node.token = token)
    {found : Option Tree} (all : ∀ node ∈ found, part node) (wanted : Token) :
    found.toList.find? (·.token == wanted) = if token = wanted then found else none := by
  cases found with
  | none => simp
  | some node => simp [tokens (all node rfl)]

theorem find?_of_target {guard : Option Tree} {named : Tree}
    (guarded : ∀ node ∈ guard, IsLeaf .ifNotExists node) (name : named.token = .identifier) :
    find? ⟨token, lexeme, guard.toList ++ [named]⟩ .identifier = some named := by
  simp [find?, List.find?_append, find?_toList IsLeaf.token_eq guarded, name]

end Tree

namespace Database

variable {arranged : List Token → Prop}

theorem ordinary_createTable {target name : String} {guard : Option Tree} {columns : List Tree}
    (guarded : ∀ node ∈ guard, IsLeaf .ifNotExists node) (filled : columns ≠ [])
    (defined : ∀ column ∈ columns, IsColumn arranged column) (database : Database) :
    Ordinary (database.createTable now
      ⟨.table, target, guard.toList ++ [⟨.identifier, name, columns⟩]⟩) := by
  simp only [createTable, find?_of_target guarded, require, Raises.bind_iff, Raises.ok, true_and]
  rintro _ ⟨⟩
  split
  · split <;> simp
  · simp [filled, Column.ordinary_listOfTrees defined]

theorem ordinary_runInsert {lexeme into name list : String} {columns tuples : List Tree}
    (rows : ∀ tuple ∈ tuples, IsTuple tuple) (database : Database) :
    Ordinary (database.runInsert now ⟨.insert, lexeme,
      [⟨.into, into, [⟨.identifier, name, columns⟩]⟩, ⟨.values, list, tuples⟩]⟩) := by
  simp [runInsert, Tree.find?, onlyChild?, require, Relation.ordinary_newRows rows]

theorem ordinary_runUpdate {lexeme set : String} {name : Tree} {changes : List Tree}
    {filter : Option Tree} (named : IsLeaf .identifier name)
    (changed : ∀ change ∈ changes, IsAssignment change)
    (filters : ∀ clause ∈ filter, IsWhere clause) (database : Database) :
    Ordinary (database.runUpdate now
      ⟨.update, lexeme, name :: ⟨.assignments, set, changes⟩ :: filter.toList⟩) := by
  have assignments (relation : Relation) : Ordinary (changes.mapM (relation.assignment now)) :=
    Raises.mapM fun tree member => Relation.ordinary_assignment (changed tree member)
  have assigned (changes : List (Column × Nat × Value)) (marked : List (Row × Bool)) :
      Ordinary (marked.mapM fun pair =>
        if pair.2 then Relation.assign changes pair.1 else .ok pair.1) := by
    refine Raises.mapM fun pair _ => ?_
    split <;> simp
  have set_found : Tree.find? ⟨.update, lexeme,
      name :: ⟨.assignments, set, changes⟩ :: filter.toList⟩ .assignments =
        some ⟨.assignments, set, changes⟩ := by
    simp [Tree.find?, named.token_eq]
  have filter_found : Tree.find? ⟨.update, lexeme,
      name :: ⟨.assignments, set, changes⟩ :: filter.toList⟩ .whereClause = filter := by
    simp [Tree.find?, named.token_eq, find?_toList IsWhere.token_eq filters]
  simp only [runUpdate, set_found, filter_found, List.head?_cons, named.identifier_eq, require,
    Raises.bind_iff, Raises.ok, raises_relation, Predicate.ordinary_ofClause filters,
    Predicate.raises_mark, true_and, Except.ok.injEq]
  rintro _ rfl _ rfl relation _ predicate _
  refine ⟨assignments relation, fun values _ marked _ => ⟨assigned values marked, fun rows _ => ?_⟩⟩
  split <;> simp

theorem ordinary_runSelect {lexeme source : String} {projection name : Tree}
    {filter order limit offset : Option Tree} (shows : IsProjection projection)
    (named : IsLeaf .identifier name) (filters : ∀ clause ∈ filter, IsWhere clause)
    (orders : ∀ clause ∈ order, IsOrder clause)
    (limits : ∀ clause ∈ limit, IsRowCount .limit clause)
    (offsets : ∀ clause ∈ offset, IsRowCount .offset clause) (database : Database) :
    Ordinary (database.runSelect now ⟨.select, lexeme,
      [projection, ⟨.fromTable, source, [name]⟩]
        ++ filter.toList ++ order.toList ++ limit.toList ++ offset.toList⟩) := by
  simp [runSelect, Tree.find?, List.find?_append, find?_toList IsWhere.token_eq filters,
    find?_toList IsOrder.token_eq orders, find?_toList IsRowCount.token_eq limits,
    find?_toList IsRowCount.token_eq offsets, shows.token_eq, onlyChild?, require,
    named.identifier_eq, Projection.ordinary_ofTree shows, Predicate.ordinary_ofClause filters,
    ordinary_sortRows orders, ordinary_rowCount limits, ordinary_rowCount offsets]

theorem ordinary_runDelete {lexeme source : String} {name : Tree} {filter : Option Tree}
    (named : IsLeaf .identifier name) (filters : ∀ clause ∈ filter, IsWhere clause)
    (database : Database) :
    Ordinary (database.runDelete now
      ⟨.delete, lexeme, ⟨.fromTable, source, [name]⟩ :: filter.toList⟩) := by
  simp [runDelete, Tree.find?, find?_toList IsWhere.token_eq filters, onlyChild?, require,
    named.identifier_eq, Predicate.ordinary_ofClause filters]

/-- A statement that has its shape fails with ordinary errors only. -/
theorem ordinary_execute (shaped : Shaped arranged tree) (database : Database) :
    Ordinary (database.execute now tree) := by
  cases shaped with
  | createDatabase lexeme target guarded named =>
      simp [execute, runCreate, onlyChild?, require, find?_of_target guarded named.token_eq,
        named.identifier_eq]
  | createTable lexeme target name guarded filled defined =>
      simp [execute, runCreate, onlyChild?, require, ordinary_createTable guarded filled defined]
  | drop kind lexeme target named =>
      rcases kind with rfl | rfl <;> simp [execute, runDrop, onlyChild?]
  | truncate lexeme target named =>
      simp [execute, runTruncate, onlyChild?, named.identifier_eq]
  | insert lexeme into name list _ rows => exact ordinary_runInsert rows database
  | select lexeme source shows named filters orders limits offsets =>
      simp only [execute, Raises.bind_iff, Raises.pure, implies_true, and_true]
      exact ordinary_runSelect shows named filters orders limits offsets database
  | update lexeme set named changed filters =>
      exact ordinary_runUpdate named changed filters database
  | delete lexeme source named filters => exact ordinary_runDelete named filters database
  | control kind lexeme =>
      simp only [controlTokens, List.mem_cons, List.not_mem_nil, or_false] at kind
      rcases kind with rfl | rfl | rfl <;> simp [execute]

end Database

/-- Every tree that is read from a text has the shape of a statement. -/
theorem Script.shaped_of_parse {text : String} {trees : List Tree}
    (read : parse text = .ok trees) : ∀ tree ∈ trees, Shaped InAnyOrder tree := by
  intro tree member
  obtain ⟨chars, rest, found⟩ := exists_statement_of_parse read member
  exact (Grammar.reads_statement found).1

theorem Error.IsOrdinary.isCrash_eq {error : Error} (ordinary : error.IsOrdinary) :
    error.isCrash = false := by
  cases error <;> first | rfl | cases ordinary

/-- A text that cannot be read has an ordinary fault, or breaks its reading. -/
theorem Script.ordinary_or_broken_of_parse {text : String} {error : Error}
    (failed : parse text = .error error) : error.IsOrdinary ∨ error = .broken := by
  have raises : Raises (fun error => Error.IsOrdinary error ∨ error = .broken) (parse text) := by
    unfold parse
    split
    · simp
    · refine Raises.mapM fun chars _ => ?_
      unfold ofTrimmed
      split
      · simp
      · simp
      · dsimp only
        split <;> simp
  exact raises error failed

theorem Script.parse_of_breaks {text : String} (breaks : Script.breaks text = true) :
    parse text = .error .broken := by
  unfold Script.breaks at breaks
  split at breaks
  · contradiction
  · rename_i error failed
    rw [failed, Error.isCrash_iff.mp breaks]

/-- A script breaks or only fails with ordinary errors. -/
theorem Database.ordinary_or_broken_of_run {database : Database} {text : String} {error : Error}
    (failed : (database.run now text).failure = some error) :
    error.IsOrdinary ∨ Script.breaks text = true ∧ error = .broken := by
  unfold run at failed
  split at failed
  · rename_i fault parsed
    obtain rfl := Option.some.inj failed
    refine (Script.ordinary_or_broken_of_parse parsed).imp id ?_
    rintro rfl
    simp [Script.breaks, parsed, Error.isCrash]
  · obtain ⟨tree, member, before, executed⟩ := exists_of_runAll failed
    exact .inl (ordinary_execute (Script.shaped_of_parse ‹_› tree member) before _ executed)

/-- An error that a script tells of is an ordinary one. -/
theorem Database.ordinary_of_run {database : Database} {text : String} {error : Error}
    (told : (database.run now text).reported = some error) : error.IsOrdinary := by
  obtain ⟨failed, calm⟩ := Outcome.reported_eq_some.mp told
  rcases ordinary_or_broken_of_run failed with ordinary | ⟨-, rfl⟩
  · exact ordinary
  · contradiction

/-- The run of a script is cut short exactly if the reading of it breaks. -/
theorem Database.crashes_run (now : Timestamp) (database : Database) (text : String) :
    (database.run now text).crashes = Script.breaks text := by
  cases breaks : Script.breaks text with
  | true => simp [run, Script.parse_of_breaks breaks, Outcome.crashes, Error.isCrash]
  | false =>
      unfold Outcome.crashes
      cases failed : (database.run now text).failure with
      | none => rfl
      | some error =>
          rcases ordinary_or_broken_of_run failed with ordinary | ⟨breaks', -⟩
          · exact ordinary.isCrash_eq
          · rw [breaks] at breaks'
            contradiction

theorem Script.breaks_of_parse {text : String} {trees : List Tree} (read : parse text = .ok trees) :
    breaks text = false := by
  rw [breaks, read]

/-- Only a script that breaks its reading cuts a run of several short. -/
theorem Database.crashes_runEach {database : Database} {texts : List String}
    (whole : ∀ text ∈ texts, Script.breaks text = false) :
    (database.runEach now texts).crashes = false := by
  induction texts generalizing database with
  | nil => rfl
  | cons text texts induction =>
      obtain ⟨first, others⟩ := List.forall_mem_cons.mp whole
      have calm := crashes_run now database text
      rw [first] at calm
      rw [runEach]
      split
      · exact calm
      · exact induction others

/-- The trees that are read from a text have the shapes of statements, with the constraints of a
column in any order, and are at most six nodes deep.  A script never fails because of the form of a
tree: what does not fit together in it is the name of a column, or its type. -/
theorem Script.trees_fit (text : String) :
    (∀ trees, parse text = .ok trees →
      ∀ tree ∈ trees, Shaped InAnyOrder tree ∧ tree.depth ≤ 6) ∧
    ∀ (now : Timestamp) (database : Database) (fault : ShapeFault),
      (database.run now text).failure = some (.shape fault) →
        (∃ column table, fault = .unknownColumn column table) ∨
        (∃ column, fault = .duplicateColumn column) ∨
        (∃ column, fault = .listedTwice column) ∨
        ∃ column, fault = .notInteger column := by
  constructor
  · intro trees read tree member
    have shaped := shaped_of_parse read tree member
    exact ⟨shaped, shaped.depth_le⟩
  · intro now database fault failed
    have told := Outcome.reported_of_failure failed rfl
    have ordinary : fault.IsOrdinary := Database.ordinary_of_run told
    cases fault <;> simp_all

/-- A condition with both kinds of groups goes down to the limit. -/
example : (Script.parse "SELECT * FROM t WHERE a = 1 AND b = 2 OR c = 3").toOption.map
    (·.map Tree.depth) = some [6] := by
  decide +kernel

/-- What the table of shapes says about the constraints of the only column of a new table. -/
theorem Tree.Shaped.inTableOrder {lexeme target name column : String} {type : Tree}
    {constraints : List Tree}
    (shaped : Shaped InTableOrder ⟨.create, lexeme, [⟨.table, target, [⟨.identifier, name,
      [⟨.columnDef, column, type :: constraints⟩]⟩]⟩]⟩) :
    InTableOrder (constraints.map (·.token)) := by
  generalize same : (⟨.create, lexeme, [⟨.table, target, [⟨.identifier, name,
    [⟨.columnDef, column, type :: constraints⟩]⟩]⟩]⟩ : Tree) = tree at shaped
  cases shaped with
  | @createTable _ _ _ guard _ _ _ defined =>
      cases guard with
      | none =>
          simp only [Option.toList_none, List.nil_append, Tree.mk.injEq, List.cons.injEq] at same
          obtain ⟨-, -, ⟨-, -, ⟨-, -, rfl⟩, -⟩, -⟩ := same
          obtain ⟨_, -, -, order⟩ := defined _ List.mem_cons_self
          exact order
      | some guard => simp at same
  | _ => simp_all [controlTokens]

/-- A column may have its constraints in another order than that of the table of shapes, and may
have one of them twice. -/
theorem Script.constraints_out_of_order :
    (∃ tree, parse "CREATE TABLE t (a INT UNIQUE NOT NULL)" = .ok [tree] ∧
      ¬ Shaped InTableOrder tree) ∧
    ∃ tree, parse "CREATE TABLE t (a INT UNIQUE UNIQUE)" = .ok [tree] ∧
      ¬ Shaped InTableOrder tree := by
  let made (first second : Tree) : Tree :=
    ⟨.create, "CREATE", [⟨.table, "TABLE", [⟨.identifier, "t", [⟨.columnDef, "a",
      [⟨.typeName, "INT", []⟩, first, second]⟩]⟩]⟩]⟩
  have swapped : parse "CREATE TABLE t (a INT UNIQUE NOT NULL)" =
      .ok [made ⟨.unique, "UNIQUE", []⟩ ⟨.notNull, "NOT NULL", []⟩] := by
    with_unfolding_all rfl
  have doubled : parse "CREATE TABLE t (a INT UNIQUE UNIQUE)" =
      .ok [made ⟨.unique, "UNIQUE", []⟩ ⟨.unique, "UNIQUE", []⟩] := by
    with_unfolding_all rfl
  refine ⟨⟨_, swapped, fun shaped => ?_⟩, _, doubled, fun shaped => ?_⟩
  · exact absurd shaped.inTableOrder (by decide)
  · exact absurd shaped.inTableOrder (by decide)

end SqlEngine
