import SqlEngine.Proofs.Clauses
import SqlEngine.Proofs.Conversions

/-!
# Membership in a list as equalities

A test that a column is in a list, and the tests that it is equal to the one or the other item, fail
to become predicates together, and tell the same of a row.  Only where an item has no order to the
cell, and none in front of it is equal to the cell, do the equalities fail: the list passes over it.
-/

namespace SqlEngine

namespace Tree

/-- The test that a column is in a list. -/
def isOneOf (name lexeme : String) (literals : List Tree) : Tree :=
  ⟨.inList, lexeme, ⟨.identifier, name, []⟩ :: literals⟩

/-- The test that a column is equal to a literal. -/
def isEqualTo (name : String) (literal : Tree) : Tree :=
  ⟨.equal, "=", [⟨.identifier, name, []⟩, literal]⟩

/-- The tests that a column is equal to one of several literals, joined by OR. -/
def isAnyEqualTo (name : String) (literals : List Tree) : Tree :=
  Grammar.joined .anyOf "OR" (literals.map (isEqualTo name))

end Tree

namespace Predicate

/-- Whether a list has an item, no null, without an order to a cell, and none equal to the cell in
front of it. -/
inductive Clashes (cell : Value) : List Value → Prop where
  /-- The first item is the one. -/
  | first {value : Value} (given : (cell.isNull || value.isNull) = false)
      (apart : cell.compare? value = none) (others : List Value) : Clashes cell (value :: others)
  /-- A later item is the one. -/
  | later {value : Value} {others : List Value} (different : cell.compare? value ≠ some .eq)
      (clashes : Clashes cell others) : Clashes cell (value :: others)

/-! ## The tests of a row -/

section Rows

variable {cell : Value} {values : List Value} {row : Row} {place : Nat}

theorem isAmong_cons (value : Value) :
    isAmong (value :: values) cell =
      ((!cell.isNull && cell.compare? value == some .eq) || isAmong values cell) := by
  simp only [isAmong, List.any_cons, Bool.and_or_distrib_left]

theorem anyHolds_of_first (here : row.cell place = .ok cell) {value : Value}
    {outcome : Except Error Bool} (tested : comparesWith .equal cell value = outcome)
    (decided : outcome ≠ .ok false) :
    anyHolds row ((value :: values).map (compare place .equal)) = outcome := by
  rw [List.map_cons, anyHolds, holds_compare here, tested]
  cases outcome with
  | error fault => rfl
  | ok truth =>
      cases truth with
      | true => rfl
      | false => contradiction

theorem anyHolds_of_later (here : row.cell place = .ok cell) {value : Value}
    (tested : comparesWith .equal cell value = .ok false) :
    anyHolds row ((value :: values).map (compare place .equal)) =
      anyHolds row (values.map (compare place .equal)) := by
  rw [List.map_cons, anyHolds, holds_compare here, tested]
  rfl

/-- A test for equality comes out as the order of the cell and the item says, if they have one. -/
theorem equality_cases (cell value : Value) :
    (comparesWith .equal cell value = .ok true ∧ cell.isNull = false ∧
      cell.compare? value = some .eq) ∨
    (comparesWith .equal cell value = .ok false ∧ cell.compare? value ≠ some .eq) ∨
    (comparesWith .equal cell value = .error .typeMismatch ∧
      (cell.isNull || value.isNull) = false ∧ cell.compare? value = none) := by
  cases compared : cell.compare? value with
  | some order =>
      have given := Value.not_null_of_compare? compared
      have tested := comparesWith_of_compare? .equal compared
      by_cases equal : order = .eq
      · subst equal
        exact .inl ⟨tested, (Bool.or_eq_false_iff.mp given).1, rfl⟩
      · have unequal : Comparison.equal.holds order = false := by simpa [Comparison.holds]
        exact .inr (.inl ⟨by rw [tested, unequal], by simpa⟩)
  | none =>
      cases given : cell.isNull || value.isNull with
      | true => exact .inr (.inl ⟨by rw [comparesWith, given]; rfl, by simp⟩)
      | false => exact .inr (.inr ⟨by rw [comparesWith, given, compared]; rfl, rfl, rfl⟩)

/-- Equalities fail with an item that clashes. -/
theorem anyHolds_of_clashes (here : row.cell place = .ok cell) (clashes : Clashes cell values) :
    anyHolds row (values.map (compare place .equal)) = .error .typeMismatch := by
  induction clashes with
  | first given apart others =>
      refine anyHolds_of_first here ?_ (by simp)
      rw [comparesWith, given, apart]
      rfl
  | @later value others different clashes induction =>
      rcases equality_cases cell value with ⟨-, -, equal⟩ | ⟨tested, -⟩ | ⟨tested, -⟩
      · contradiction
      · rw [anyHolds_of_later here tested, induction]
      · exact anyHolds_of_first here tested (by simp)

/-- Without one, they tell whether the cell is in the list. -/
theorem anyHolds_of_not_clashes (here : row.cell place = .ok cell)
    (clear : ¬ Clashes cell values) :
    anyHolds row (values.map (compare place .equal)) = .ok (isAmong values cell) := by
  induction values with
  | nil =>
      rw [isAmong, List.any_nil, Bool.and_false]
      rfl
  | cons value values induction =>
      rw [isAmong_cons]
      rcases equality_cases cell value with
        ⟨tested, given, equal⟩ | ⟨tested, different⟩ | ⟨-, given, apart⟩
      · rw [anyHolds_of_first here tested (by simp), given, equal]
        rfl
      · have rest := induction fun clashes => clear (.later different clashes)
        rw [anyHolds_of_later here tested, rest, beq_eq_false_iff_ne.mpr different,
          Bool.and_false, Bool.false_or]
      · exact absurd (.first given apart values) clear

end Rows

/-! ## The predicates -/

section Making

variable {now : Timestamp} {relation : Relation} {name : String} {column : Column} {place : Nat}
  {fault : Error} {literals : List Tree}

theorem ofTree_isOneOf (found : relation.column name = .ok (column, place)) (lexeme : String) :
    ofTree now relation (.isOneOf name lexeme literals) =
      (literals.mapM (operand now column)).map (isIn place) := by
  rw [Tree.isOneOf, ofTree, ofIn, subject, found]
  change (literals.mapM (operand now column) >>= fun values => pure (isIn place values)) = _
  cases literals.mapM (operand now column) <;> rfl

theorem ofTree_isEqualTo (found : relation.column name = .ok (column, place)) (literal : Tree) :
    ofTree now relation (.isEqualTo name literal) =
      (operand now column literal).map (compare place .equal) := by
  rw [Tree.isEqualTo, ofTree_of_comparison rfl, ofComparison, subject, found]
  change (operand now column literal >>= fun value => pure (compare place .equal value)) = _
  cases operand now column literal <;> rfl

/-- Conditions of which one does not become a predicate do not if they are joined. -/
theorem ofTree_joined_of_error {trees : List Tree}
    (failed : ofTrees now relation trees = .error fault) (lexeme : String) :
    ofTree now relation (Grammar.joined .anyOf lexeme trees) = .error fault := by
  unfold Grammar.joined
  split
  · rename_i tree
    rw [ofTrees] at failed
    rcases Checked.bind_eq_error.mp failed with first | ⟨_, _, none⟩
    · exact first
    · contradiction
  · rw [ofTree, failed]
    rfl

/-- Equalities with the items of a list become predicates if the items become operands, and fail
with the first that does not. -/
theorem ofTrees_isEqualTo (found : relation.column name = .ok (column, place)) :
    ofTrees now relation (literals.map (.isEqualTo name)) =
      (literals.mapM (operand now column)).map (List.map (compare place .equal)) := by
  induction literals with
  | nil => rw [List.map_nil, ofTrees]; rfl
  | cons literal literals induction =>
      rw [List.map_cons, ofTrees, induction, ofTree_isEqualTo found, List.mapM_cons]
      cases operand now column literal with
      | error fault => rfl
      | ok value => cases literals.mapM (operand now column) <;> rfl

theorem not_clashes_of_held {type : ColumnType} {cell : Value} {values : List Value}
    (cell_held : type.Holds cell) (held : ∀ value ∈ values, type.Holds value) :
    ¬ Clashes cell values := by
  intro clashes
  induction clashes with
  | @first value given apart others =>
      obtain ⟨truth, compared⟩ :=
        comparesWith_eq_ok cell_held (held value List.mem_cons_self) .equal
      rw [comparesWith, given, apart] at compared
      contradiction
  | later _ _ induction =>
      exact induction fun value member => held value (List.mem_cons_of_mem _ member)

/-- Items that the type of a column takes do not clash with a cell of the column. -/
theorem not_clashes_of_typed {cell : Value} {values : List Value}
    (cell_held : column.type.Holds cell)
    (typed : ∀ literal ∈ literals, ∃ value, literal.typedValue now column.type = .ok value)
    (made : literals.mapM (operand now column) = .ok values) : ¬ Clashes cell values := by
  refine not_clashes_of_held cell_held fun value member => ?_
  obtain ⟨literal, inside, read⟩ :=
    Checked.exists_of_mem_right (Checked.mapM_eq_ok.mp made) member
  obtain ⟨other, taken⟩ := typed literal inside
  obtain rfl := Except.ok.inj ((operand_of_typedValue taken).symm.trans read)
  exact Tree.holds_of_typedValue taken

end Making

/-- A test that a column is in a list and the equalities with its items, joined by OR, do not become
predicates for the same reason, or tell the same of a row, unless an item clashes with the cell:
then the list still tells whether the cell is in it, and the equalities fail.  No item clashes with a
cell of the type of its column if this type takes them all. -/
theorem isOneOf_eq_isAnyEqualTo (now : Timestamp) (relation : Relation) (name lexeme : String)
    {literals : List Tree} {row : Row} (some : literals ≠ [])
    (fits : row.length = relation.columns.length) :
    (∃ fault, ofTree now relation (.isOneOf name lexeme literals) = .error fault ∧
      ofTree now relation (.isAnyEqualTo name literals) = .error fault) ∨
    ∃ listed equalities column place cell values,
      ofTree now relation (.isOneOf name lexeme literals) = .ok listed ∧
      ofTree now relation (.isAnyEqualTo name literals) = .ok equalities ∧
      relation.column name = .ok (column, place) ∧ row.cell place = .ok cell ∧
      literals.mapM (operand now column) = .ok values ∧
      listed.holds row = .ok (isAmong values cell) ∧
      (¬ Clashes cell values → equalities.holds row = listed.holds row) ∧
      (Clashes cell values → equalities.holds row = .error .typeMismatch) ∧
      (column.type.Holds cell →
        (∀ literal ∈ literals, ∃ value, literal.typedValue now column.type = .ok value) →
          ¬ Clashes cell values) := by
  rcases found : relation.column name with fault | ⟨column, place⟩
  · refine .inl ⟨fault, ?_, ofTree_joined_of_error ?_ "OR"⟩
    · rw [Tree.isOneOf, ofTree, ofIn, subject, found]
      rfl
    · obtain ⟨literal, others, rfl⟩ := List.exists_cons_of_ne_nil some
      rw [List.map_cons, ofTrees, Tree.isEqualTo, ofTree_of_comparison rfl, ofComparison, subject,
        found]
      rfl
  rcases made : literals.mapM (operand now column) with fault | values
  · refine .inl ⟨fault, ?_, ofTree_joined_of_error ?_ "OR"⟩
    · rw [ofTree_isOneOf found, made]
      rfl
    · rw [ofTrees_isEqualTo found, made]
      rfl
  have inside : place < row.length := by
    rw [fits]
    exact (List.getElem?_eq_some_iff.mp (Relation.getElem?_of_column found)).1
  have here : row.cell place = .ok row[place] :=
    Row.cell_eq_ok.mpr (List.getElem?_eq_getElem inside)
  have each : List.Forall₂ (fun tree predicate => ofTree now relation tree = .ok predicate)
      (literals.map (Tree.isEqualTo name)) (values.map (compare place .equal)) := by
    rw [List.forall₂_map_left_iff, List.forall₂_map_right_iff]
    refine (Checked.mapM_eq_ok.mp made).imp fun literal value read => ?_
    rw [ofTree_isEqualTo found, read]
    rfl
  obtain ⟨equalities, joined, same⟩ :=
    ofTree_joined .anyOf (fun _ _ => by rw [ofTree]) holds_any_singleton "OR" each
  have listed : (isIn place values).holds row = .ok (isAmong values row[place]) := by
    rw [holds, here]
    rfl
  refine .inr ⟨isIn place values, equalities, column, place, row[place], values, ?_, joined, rfl,
    here, made, listed, fun clear => ?_, fun clashes => ?_,
    fun held typed => not_clashes_of_typed held typed made⟩
  · rw [ofTree_isOneOf found, made]
    rfl
  · rw [same, listed, holds, anyHolds_of_not_clashes here clear]
  · rw [same, holds, anyHolds_of_clashes here clashes]

/-- A text in a list of numbers does no harm behind a number that the cell is equal to. -/
theorem text_behind_equal_number :
    let now := Date.atMidnight ⟨1970, 1, 1, by decide⟩
    let row : Row := [.integer 1, .text "xy", .null]
    let literals : List Tree := [⟨.number, "1", []⟩, ⟨.stringLit, "x", []⟩]
    literals ≠ [] ∧ row.length = listing.columns.length ∧
      ∃ listed equalities, ofTree now listing (.isOneOf "a" "IN" literals) = .ok listed ∧
        ofTree now listing (.isAnyEqualTo "a" literals) = .ok equalities ∧
        listed.holds row = .ok true ∧ equalities.holds row = .ok true := by
  intro now row literals
  have some : literals ≠ [] := by simp [literals]
  have fits : row.length = listing.columns.length := rfl
  have found : listing.column "a" = .ok (.ofType "a" .integer, 0) := by decide +kernel
  have made : literals.mapM (operand now (.ofType "a" .integer)) =
      .ok [.integer 1, .text "x"] := by
    decide +kernel
  refine ⟨some, fits, ?_⟩
  rcases isOneOf_eq_isAnyEqualTo now listing "a" "IN" some fits with
    ⟨fault, failed, -⟩ | ⟨listed, equalities, column, place, cell, values, compiled, compiled',
      found', here, made', tells, agrees, -, -⟩
  · rw [ofTree_isOneOf found, made] at failed
    contradiction
  · obtain ⟨rfl, rfl⟩ := Prod.mk.inj (Except.ok.inj (found.symm.trans found'))
    obtain rfl := Except.ok.inj (made.symm.trans made')
    obtain rfl : Value.integer 1 = cell := Except.ok.inj here
    have clear : ¬ Clashes (.integer 1) [.integer 1, .text "x"] := by
      rintro (⟨-, apart, -⟩ | ⟨different, -⟩)
      · simp [Value.compare?] at apart
      · simp [Value.compare?] at different
    have told : isAmong [.integer 1, .text "x"] (.integer 1) = true := by decide
    rw [told] at tells
    exact ⟨listed, equalities, compiled, compiled', tells, (agrees clear).trans tells⟩

/-- A number is not in a list of texts, but cannot be compared with a text. -/
theorem number_among_texts :
    let now := Date.atMidnight ⟨1970, 1, 1, by decide⟩
    let row : Row := [.integer 1, .text "xy", .null]
    let literals : List Tree := [⟨.stringLit, "x", []⟩]
    Scan.whole Grammar.whereClause "WHERE a IN ('x')" =
      some ⟨.whereClause, "WHERE", [.isOneOf "a" "IN" literals]⟩ ∧
    Scan.whole Grammar.whereClause "WHERE a = 'x'" =
      some ⟨.whereClause, "WHERE", [.isAnyEqualTo "a" literals]⟩ ∧
    (do (← ofTree now listing (.isOneOf "a" "IN" literals)).holds row) = .ok false ∧
    (do (← ofTree now listing (.isAnyEqualTo "a" literals)).holds row) =
      .error .typeMismatch := by
  decide +kernel

end Predicate
end SqlEngine
