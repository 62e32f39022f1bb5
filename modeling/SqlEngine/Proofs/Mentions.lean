import SqlEngine.Proofs.Changes

/-!
# What a condition looks at

A condition names columns of its table, and its predicate looks at the cells in their places alone.
So rows that have the same cells there meet it alike.  The predicate is the same for all tables that
have the columns.
-/

namespace SqlEngine

namespace Tree

mutual

/-- The names that stand in a tree. -/
def names : Tree → List String
  | ⟨token, lexeme, children⟩ =>
    (if token = .identifier then [lexeme] else []) ++ namesOfAll children

/-- The names that stand in several trees. -/
def namesOfAll : List Tree → List String
  | [] => []
  | tree :: trees => tree.names ++ namesOfAll trees

end

theorem subset_names (token : Token) (lexeme : String) (children : List Tree) :
    namesOfAll children ⊆ names ⟨token, lexeme, children⟩ := by
  unfold names
  exact List.subset_append_right _ _

end Tree

namespace Predicate

variable {now : Timestamp} {relation : Relation} {row other : Row}

mutual

/-- The places of the cells that a predicate looks at. -/
def places : Predicate → List Nat
  | all conditions => placesOfAll conditions
  | any conditions => placesOfAll conditions
  | compare place _ _ => [place]
  | like place _ => [place]
  | isIn place _ => [place]
  | isNull place => [place]
  | isNotNull place => [place]

/-- The places of the cells that several predicates look at. -/
def placesOfAll : List Predicate → List Nat
  | [] => []
  | condition :: conditions => places condition ++ placesOfAll conditions

end

/-- Whether two rows have the same cells in several places. -/
def Agree (places : List Nat) (row other : Row) : Prop :=
  ∀ place ∈ places, row[place]? = other[place]?

theorem Agree.cell_eq {place : Nat} (agree : Agree [place] row other) :
    row.cell place = other.cell place := by
  unfold Row.cell
  rw [agree place List.mem_cons_self]

mutual

/-- Rows that have the same cells where a predicate looks meet it alike. -/
theorem holds_congr {predicate : Predicate} (agree : Agree predicate.places row other) :
    predicate.holds row = predicate.holds other := by
  cases predicate with
  | all conditions => exact allHold_congr agree
  | any conditions => exact anyHolds_congr agree
  | compare place comparison value => rw [holds, holds, Agree.cell_eq agree]
  | like place pattern => rw [holds, holds, Agree.cell_eq agree]
  | isIn place values => rw [holds, holds, Agree.cell_eq agree]
  | isNull place => rw [holds, holds, Agree.cell_eq agree]
  | isNotNull place => rw [holds, holds, Agree.cell_eq agree]

theorem allHold_congr {conditions : List Predicate}
    (agree : Agree (placesOfAll conditions) row other) :
    allHold row conditions = allHold other conditions := by
  cases conditions with
  | nil => rfl
  | cons condition conditions =>
      obtain ⟨first, others⟩ := List.forall_mem_append.mp agree
      rw [allHold, allHold, holds_congr first, allHold_congr others]

theorem anyHolds_congr {conditions : List Predicate}
    (agree : Agree (placesOfAll conditions) row other) :
    anyHolds row conditions = anyHolds other conditions := by
  cases conditions with
  | nil => rfl
  | cons condition conditions =>
      obtain ⟨first, others⟩ := List.forall_mem_append.mp agree
      rw [anyHolds, anyHolds, holds_congr first, anyHolds_congr others]

end

/-- Whether a place is that of a column that one of several names stands for. -/
def Named (relation : Relation) (names : List String) (place : Nat) : Prop :=
  ∃ name ∈ names, ∃ column, relation.column name = .ok (column, place)

theorem Named.mono {names others : List String} {place : Nat} (named : Named relation names place)
    (all : names ⊆ others) : Named relation others place := by
  obtain ⟨name, member, column, found⟩ := named
  exact ⟨name, all member, column, found⟩

theorem Named.lt {names : List String} {place : Nat} (named : Named relation names place) :
    place < relation.columns.length := by
  obtain ⟨name, -, column, found⟩ := named
  exact (List.getElem?_eq_some_iff.mp (Relation.getElem?_of_column found)).1

theorem named_of_subject {lexeme : String} {children operands : List Tree} {column : Column}
    {place : Nat} (done : subject relation lexeme children = .ok ((column, place), operands)) :
    Named relation (Tree.namesOfAll children) place := by
  unfold subject at done
  split at done
  · simp only [Checked.bind_eq_ok, Checked.pure_eq_ok, Prod.mk.injEq] at done
    obtain ⟨_, found, rfl, -⟩ := done
    exact ⟨_, by simp [Tree.namesOfAll, Tree.names], column, found⟩
  · contradiction

theorem named_of_ofComparison {comparison : Comparison} {lexeme : String} {children : List Tree}
    {predicate : Predicate}
    (done : ofComparison now relation comparison lexeme children = .ok predicate) :
    ∀ place ∈ predicate.places, Named relation (Tree.namesOfAll children) place := by
  simp only [ofComparison, Checked.bind_eq_ok] at done
  obtain ⟨⟨⟨column, place⟩, operands⟩, found, done⟩ := done
  split at done
  · contradiction
  · simp only [Checked.bind_eq_ok, Checked.pure_eq_ok] at done
    obtain ⟨value, -, rfl⟩ := done
    exact List.forall_mem_singleton.mpr (named_of_subject found)

theorem named_of_ofLike {lexeme : String} {children : List Tree} {predicate : Predicate}
    (done : ofLike now relation lexeme children = .ok predicate) :
    ∀ place ∈ predicate.places, Named relation (Tree.namesOfAll children) place := by
  simp only [ofLike, Checked.bind_eq_ok] at done
  obtain ⟨⟨⟨column, place⟩, operands⟩, found, done⟩ := done
  split at done
  · contradiction
  · obtain ⟨value, -, done⟩ := Checked.bind_eq_ok.mp done
    split at done
    · obtain rfl := Checked.pure_eq_ok.mp done
      exact List.forall_mem_singleton.mpr (named_of_subject found)
    · contradiction

theorem named_of_ofIn {lexeme : String} {children : List Tree} {predicate : Predicate}
    (done : ofIn now relation lexeme children = .ok predicate) :
    ∀ place ∈ predicate.places, Named relation (Tree.namesOfAll children) place := by
  simp only [ofIn, Checked.bind_eq_ok, Checked.pure_eq_ok] at done
  obtain ⟨⟨⟨column, place⟩, operands⟩, found, values, -, rfl⟩ := done
  exact List.forall_mem_singleton.mpr (named_of_subject found)

theorem named_of_ofNullTest {test : Nat → Predicate}
    (looks : ∀ place, (test place).places = [place]) {lexeme : String} {children : List Tree}
    {predicate : Predicate} (done : ofNullTest relation test lexeme children = .ok predicate) :
    ∀ place ∈ predicate.places, Named relation (Tree.namesOfAll children) place := by
  simp only [ofNullTest, Checked.bind_eq_ok, Checked.pure_eq_ok] at done
  obtain ⟨⟨⟨column, place⟩, operands⟩, found, rfl⟩ := done
  rw [looks]
  exact List.forall_mem_singleton.mpr (named_of_subject found)

mutual

/-- The predicate of a condition looks only at columns that the condition names. -/
theorem named_of_ofTree {tree : Tree} {predicate : Predicate}
    (done : ofTree now relation tree = .ok predicate) :
    ∀ place ∈ predicate.places, Named relation tree.names place := by
  obtain ⟨token, lexeme, children⟩ := tree
  suffices ∀ place ∈ predicate.places, Named relation (Tree.namesOfAll children) place from
    fun place member => (this place member).mono (Tree.subset_names token lexeme children)
  unfold ofTree at done
  split at done
  · simp only [Checked.bind_eq_ok, Checked.pure_eq_ok] at done
    obtain ⟨conditions, found, rfl⟩ := done
    exact named_of_ofTrees found
  · simp only [Checked.bind_eq_ok, Checked.pure_eq_ok] at done
    obtain ⟨conditions, found, rfl⟩ := done
    exact named_of_ofTrees found
  · exact named_of_ofNullTest (fun place => rfl) done
  · exact named_of_ofNullTest (fun place => rfl) done
  · exact named_of_ofIn done
  · exact named_of_ofLike done
  · split at done
    · exact named_of_ofComparison done
    · contradiction

theorem named_of_ofTrees {trees : List Tree} {predicates : List Predicate}
    (done : ofTrees now relation trees = .ok predicates) :
    ∀ place ∈ placesOfAll predicates, Named relation (Tree.namesOfAll trees) place := by
  cases trees with
  | nil =>
      obtain rfl := Checked.pure_eq_ok.mp done
      exact fun _ member => absurd member List.not_mem_nil
  | cons tree trees =>
      simp only [ofTrees, Checked.bind_eq_ok, Checked.pure_eq_ok] at done
      obtain ⟨condition, first, conditions, others, rfl⟩ := done
      refine List.forall_mem_append.mpr ⟨fun place member => ?_, fun place member => ?_⟩
      · exact (named_of_ofTree first place member).mono (List.subset_append_left _ _)
      · exact (named_of_ofTrees others place member).mono (List.subset_append_right _ _)

end

/-- The predicate of a clause looks only at columns that the clause names. -/
theorem named_of_ofClause {clause : Option Tree} {predicate : Predicate}
    (done : ofClause now relation clause = .ok predicate) {place : Nat}
    (looked : place ∈ predicate.places) :
    ∃ tree, clause = some tree ∧ Named relation tree.names place := by
  unfold ofClause at done
  split at done
  · obtain rfl := Except.ok.inj done
    exact absurd looked List.not_mem_nil
  · rename_i tree
    split at done
    · rename_i condition only
      obtain ⟨token, lexeme, children⟩ := tree
      obtain rfl : children = [condition] := Tree.onlyChild?_eq_some.mp only
      have named := (named_of_ofTree done place looked).mono (List.subset_append_left _ [])
      exact ⟨_, rfl, named.mono (Tree.subset_names token lexeme [condition])⟩
    · contradiction

/-! ## Tables with the same columns -/

mutual

theorem ofTree_withRows (rows : List Row) (sequence : Int64) (tree : Tree) :
    ofTree now { relation with rows, sequence } tree = ofTree now relation tree := by
  obtain ⟨token, lexeme, children⟩ := tree
  unfold ofTree
  split
  · rw [ofTrees_withRows]
  · rw [ofTrees_withRows]
  all_goals rfl

theorem ofTrees_withRows (rows : List Row) (sequence : Int64) (trees : List Tree) :
    ofTrees now { relation with rows, sequence } trees = ofTrees now relation trees := by
  cases trees with
  | nil => rfl
  | cons tree trees => rw [ofTrees, ofTrees, ofTree_withRows, ofTrees_withRows]

end

/-- The predicate of a clause does not depend on the rows of the table. -/
theorem ofClause_withRows (rows : List Row) (sequence : Int64) (clause : Option Tree) :
    ofClause now { relation with rows, sequence } clause = ofClause now relation clause := by
  simp only [ofClause, ofTree_withRows]

end Predicate
end SqlEngine
