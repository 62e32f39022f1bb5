import SqlEngine.Proofs.Conformance
import SqlEngine.Proofs.Failures

/-!
# Statements without the current time

A statement in which no node stands for the current time does the same at any time.
-/

namespace SqlEngine

namespace Checked

variable {ε α β σ : Type}

theorem bind_congr {first : Except ε α} {next other : α → Except ε β}
    (same : ∀ value, first = .ok value → next value = other value) :
    first >>= next = first >>= other := by
  cases first with
  | ok value => exact same value rfl
  | error fault => rfl

theorem mapM_congr {check other : α → Except ε β} {items : List α}
    (same : ∀ item ∈ items, check item = other item) : items.mapM check = items.mapM other := by
  induction items with
  | nil => rfl
  | cons item items induction =>
      obtain ⟨first, others⟩ := List.forall_mem_cons.mp same
      rw [List.mapM_cons, List.mapM_cons, first, induction others]

theorem foldlM_congr {step other : σ → α → Except ε σ} {items : List α}
    (same : ∀ item ∈ items, ∀ state, step state item = other state item) (start : σ) :
    items.foldlM step start = items.foldlM other start := by
  induction items generalizing start with
  | nil => rfl
  | cons item items induction =>
      obtain ⟨first, others⟩ := List.forall_mem_cons.mp same
      rw [List.foldlM_cons, List.foldlM_cons, first]
      exact bind_congr fun state _ => induction others state

end Checked

/-- Whether no node of a tree stands for the current time. -/
inductive Tree.Timeless : Tree → Prop where
  /-- The node does not, and neither do the nodes below it. -/
  | node {token : Token} {lexeme : String} {children : List Tree} (other : token ≠ .now)
      (below : ∀ child ∈ children, child.Timeless) : Timeless ⟨token, lexeme, children⟩

namespace Tree

variable {tree child : Tree}

theorem Timeless.token_ne (timeless : tree.Timeless) : tree.token ≠ .now := by
  cases timeless
  assumption

theorem Timeless.of_mem (timeless : tree.Timeless) (member : child ∈ tree.children) :
    child.Timeless := by
  cases timeless with
  | node _ below => exact below child member

theorem Timeless.of_find? (timeless : tree.Timeless) {token : Token}
    (found : tree.find? token = some child) : child.Timeless :=
  timeless.of_mem (List.mem_of_find?_eq_some found)

theorem Timeless.of_onlyChild? (timeless : tree.Timeless) (only : tree.onlyChild? = some child) :
    child.Timeless :=
  timeless.of_mem (mem_of_onlyChild? only)

mutual

/-- Whether a tree is without the current time can be found out by going through its nodes. -/
def decideTimeless : (tree : Tree) → Decidable tree.Timeless
  | ⟨token, _, children⟩ =>
    if now : token = .now then isFalse fun timeless => timeless.token_ne now
    else
      match decideAllTimeless children with
      | isTrue below => isTrue (.node now below)
      | isFalse not_below => isFalse fun timeless => not_below fun _ => timeless.of_mem

/-- The same for several trees. -/
def decideAllTimeless : (trees : List Tree) → Decidable (∀ tree ∈ trees, tree.Timeless)
  | [] => isTrue fun _ member => absurd member List.not_mem_nil
  | tree :: trees =>
    match decideTimeless tree, decideAllTimeless trees with
    | isTrue first, isTrue others => isTrue (List.forall_mem_cons.mpr ⟨first, others⟩)
    | isFalse first, _ => isFalse fun all => first (List.forall_mem_cons.mp all).1
    | _, isFalse others => isFalse fun all => others (List.forall_mem_cons.mp all).2

end

instance : DecidablePred Timeless :=
  decideTimeless

theorem Timeless.literalValue_eq (timeless : tree.Timeless) (now later : Timestamp) :
    tree.literalValue now = tree.literalValue later := by
  unfold literalValue
  split
  case h_5 token => exact absurd token timeless.token_ne
  all_goals rfl

theorem Timeless.typedValue_eq (timeless : tree.Timeless) (now later : Timestamp)
    (type : ColumnType) : tree.typedValue now type = tree.typedValue later type := by
  unfold typedValue
  rw [timeless.literalValue_eq now later]

end Tree

variable {tree : Tree}

/-! ## Columns -/

namespace Column

theorem constrain_timeless (timeless : tree.Timeless) (now later : Timestamp) (column : Column) :
    column.constrain now tree = column.constrain later tree := by
  unfold constrain
  split
  case h_5 =>
    refine Checked.bind_congr fun literal only => ?_
    rw [(timeless.of_onlyChild? (Tree.require_eq_ok.mp only)).typedValue_eq now later]
  all_goals rfl

theorem ofTree_timeless (timeless : tree.Timeless) (now later : Timestamp) :
    ofTree now tree = ofTree later tree := by
  simp only [ofTree]
  split
  · rfl
  · split
    · rename_i type lexeme children constraints split
      refine Checked.bind_congr fun type _ => ?_
      rw [Checked.foldlM_congr fun constraint member column =>
        constrain_timeless (timeless.of_mem (by simp [split, member])) now later column]
    · rfl

theorem listOfTrees_timeless {trees : List Tree} (timeless : ∀ tree ∈ trees, tree.Timeless)
    (now later : Timestamp) (seen : List String) :
    listOfTrees now seen trees = listOfTrees later seen trees := by
  induction trees generalizing seen with
  | nil => rfl
  | cons tree trees induction =>
      obtain ⟨first, others⟩ := List.forall_mem_cons.mp timeless
      simp only [listOfTrees, ofTree_timeless first now later, induction others]

end Column

/-! ## Rows -/

namespace Relation

theorem newRows_timeless {tuples : List Tree} (timeless : ∀ tuple ∈ tuples, tuple.Timeless)
    (now later : Timestamp) (relation : Relation) (targets : List (Column × Nat))
    (numbering : Numbering) :
    relation.newRows now targets numbering tuples =
      relation.newRows later targets numbering tuples := by
  induction tuples generalizing numbering with
  | nil => rfl
  | cons tuple tuples induction =>
      obtain ⟨first, others⟩ := List.forall_mem_cons.mp timeless
      have given : givenValues now targets tuple.children =
          givenValues later targets tuple.children := by
        refine Checked.mapM_congr ?_
        rintro ⟨⟨column, place⟩, literal⟩ member
        have inside : literal.Timeless := first.of_mem (List.of_mem_zip member).2
        simp only [inside.typedValue_eq now later]
      simp only [newRows, given, induction others]

theorem assignment_timeless (timeless : tree.Timeless) (now later : Timestamp)
    (relation : Relation) : relation.assignment now tree = relation.assignment later tree := by
  unfold assignment
  split
  · rename_i named literal _ split
    have inside : literal.Timeless := timeless.of_mem (by simp [split])
    simp only [inside.typedValue_eq now later]
  · rfl

end Relation

/-! ## Predicates -/

namespace Predicate

private theorem operand_timeless (timeless : tree.Timeless) (now later : Timestamp)
    (column : Column) : operand now column tree = operand later column tree := by
  unfold operand
  rw [timeless.literalValue_eq now later]

mutual

theorem ofTree_timeless {tree : Tree} (timeless : tree.Timeless) (now later : Timestamp)
    (relation : Relation) : ofTree now relation tree = ofTree later relation tree := by
  obtain ⟨token, lexeme, children⟩ := tree
  have below : ∀ child ∈ children, child.Timeless := fun child => timeless.of_mem
  have operands {lexeme : String} {subjected : (Column × Nat) × List Tree}
      (found : subject relation lexeme children = .ok subjected) :
      ∀ operand ∈ subjected.2, operand.Timeless :=
    fun operand member => below operand (mem_of_subject found member)
  unfold ofTree
  split
  · rw [ofTrees_timeless below now later relation]
  · rw [ofTrees_timeless below now later relation]
  · rfl
  · rfl
  · refine Checked.bind_congr fun subjected found => ?_
    dsimp only
    rw [Checked.mapM_congr fun tree member =>
      operand_timeless (operands found tree member) now later _]
  · refine Checked.bind_congr fun subjected found => ?_
    dsimp only
    split
    · rfl
    · rename_i literal others split
      have inside : literal.Timeless := operands found literal (by simp [split])
      rw [inside.literalValue_eq now later]
  · split
    · refine Checked.bind_congr fun subjected found => ?_
      dsimp only
      split
      · rfl
      · rename_i literal others split
        have inside : literal.Timeless := operands found literal (by simp [split])
        rw [operand_timeless inside now later]
    · rfl

theorem ofTrees_timeless {trees : List Tree} (timeless : ∀ tree ∈ trees, tree.Timeless)
    (now later : Timestamp) (relation : Relation) :
    ofTrees now relation trees = ofTrees later relation trees := by
  cases trees with
  | nil => rfl
  | cons tree trees =>
      obtain ⟨first, others⟩ := List.forall_mem_cons.mp timeless
      simp only [ofTrees]
      have here := ofTree_timeless first now later relation
      have there := ofTrees_timeless others now later relation
      rw [here, there]

end

theorem ofClause_timeless {clause : Option Tree}
    (timeless : ∀ tree, clause = some tree → tree.Timeless) (now later : Timestamp)
    (relation : Relation) : ofClause now relation clause = ofClause later relation clause := by
  unfold ofClause
  split
  · rfl
  · split
    · exact ofTree_timeless ((timeless _ rfl).of_onlyChild? ‹_›) now later relation
    · rfl

end Predicate

/-! ## Statements -/

namespace Database

theorem runCreate_timeless (timeless : tree.Timeless) (now later : Timestamp)
    (database : Database) : database.runCreate now tree = database.runCreate later tree := by
  simp only [runCreate]
  refine Checked.bind_congr fun target only => ?_
  have target_timeless := timeless.of_onlyChild? (Tree.require_eq_ok.mp only)
  split
  · rfl
  · simp only [createTable]
    refine Checked.bind_congr fun named found => ?_
    have named_timeless := target_timeless.of_find? (Tree.require_eq_ok.mp found)
    rw [Column.listOfTrees_timeless (fun _ => named_timeless.of_mem) now later]
  · rfl

theorem runInsert_timeless (timeless : tree.Timeless) (now later : Timestamp)
    (database : Database) : database.runInsert now tree = database.runInsert later tree := by
  simp only [runInsert]
  split
  · refine Checked.bind_congr fun into _ => Checked.bind_congr fun values found => ?_
    have values_timeless := timeless.of_find? (Tree.require_eq_ok.mp found)
    simp only [Relation.newRows_timeless (fun _ => values_timeless.of_mem) now later]
  · rfl

theorem runUpdate_timeless (timeless : tree.Timeless) (now later : Timestamp)
    (database : Database) : database.runUpdate now tree = database.runUpdate later tree := by
  simp only [runUpdate]
  refine Checked.bind_congr fun name _ => Checked.bind_congr fun set found => ?_
  have set_timeless := timeless.of_find? (Tree.require_eq_ok.mp found)
  refine Checked.bind_congr fun relation _ => ?_
  rw [Predicate.ofClause_timeless (fun _ => timeless.of_find?) now later,
    Checked.mapM_congr fun tree member =>
      Relation.assignment_timeless (set_timeless.of_mem member) now later relation]

theorem runDelete_timeless (timeless : tree.Timeless) (now later : Timestamp)
    (database : Database) : database.runDelete now tree = database.runDelete later tree := by
  simp only [runDelete, Predicate.ofClause_timeless (fun _ => timeless.of_find?) now later]

theorem runSelect_timeless (timeless : tree.Timeless) (now later : Timestamp)
    (database : Database) : database.runSelect now tree = database.runSelect later tree := by
  simp only [runSelect, Predicate.ofClause_timeless (fun _ => timeless.of_find?) now later]

/-- A statement without the current time does the same at any time. -/
theorem execute_timeless (timeless : tree.Timeless) (now later : Timestamp)
    (database : Database) : database.execute now tree = database.execute later tree := by
  unfold execute
  split
  · exact runCreate_timeless timeless now later database
  · rfl
  · rfl
  · exact runInsert_timeless timeless now later database
  · exact runUpdate_timeless timeless now later database
  · exact runDelete_timeless timeless now later database
  · rw [runSelect_timeless timeless now later database]
  all_goals rfl

theorem runAll_timeless {trees : List Tree} (timeless : ∀ tree ∈ trees, tree.Timeless)
    (now later : Timestamp) (database : Database) :
    database.runAll now trees = database.runAll later trees := by
  induction trees generalizing database with
  | nil => rfl
  | cons tree trees induction =>
      obtain ⟨first, others⟩ := List.forall_mem_cons.mp timeless
      simp only [runAll, execute_timeless first now later, induction others]

end Database

/-- Whether no statement of a script has a node that stands for the current time. -/
def Script.Timeless (text : String) : Prop :=
  ∀ trees, Script.parse text = .ok trees → ∀ tree ∈ trees, tree.Timeless

instance (text : String) : Decidable (Script.Timeless text) :=
  match parsed : Script.parse text with
  | .ok trees =>
    decidable_of_iff (∀ tree ∈ trees, tree.Timeless) (by simp [Script.Timeless, parsed])
  | .error _ => isTrue (by simp [Script.Timeless, parsed])

theorem Database.run_timeless {text : String} (timeless : Script.Timeless text)
    (now later : Timestamp) (database : Database) :
    database.run now text = database.run later text := by
  unfold run
  split
  · rfl
  · exact runAll_timeless (timeless _ ‹_›) now later database

end SqlEngine
