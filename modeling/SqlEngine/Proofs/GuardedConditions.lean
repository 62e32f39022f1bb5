import SqlEngine.Proofs.Cursors
import SqlEngine.Proofs.Places

/-!
# Conditions, place by place

A condition is read from a tree by the places of the children, and becomes a predicate with places of
columns.  Both kinds of places are looked up one by one here: children behind the first one, the
column of an operand, and the cells that a predicate looks at.  A predicate that is read this way is
the same, and of a row that is as wide as its table it holds or fails in the same way.
-/

namespace SqlEngine
namespace Guarded

variable {now : Timestamp} {relation : Relation}

/-- The place of the column with a given name. -/
def columnPlace (relation : Relation) (name : String) : Guarded Nat :=
  match relation.columns.findIdx? (·.name == name) with
  | some place => .ok place
  | none => .error (.error (.shape (.unknownColumn name relation.name)))

theorem columnPlace_eq_lift (relation : Relation) (name : String) :
    columnPlace relation name = lift (Prod.snd <$> relation.column name) := by
  rw [columnPlace, Relation.column, List.findIdx?_eq_fst_find?_zipIdx]
  cases relation.columns.zipIdx.find? (·.1.name == name) with
  | none => rfl
  | some found => rfl

/-- The place of the column that a condition is about. -/
def subject (relation : Relation) (lexeme : String) (children : List Tree) : Guarded Nat :=
  match children.head? with
  | some ⟨.identifier, name, _⟩ => columnPlace relation name
  | _ => .error (.error (.shape (.tree (.noColumn lexeme))))

/-- The value of an operand, in the type of the column at a place if it can have it. -/
def operand (now : Timestamp) (relation : Relation) (place : Nat) (tree : Tree) : Guarded Value := do
  let value ← lift (tree.literalValue now)
  let column ← lookup relation.columns place
  match column.type.coerce value with
  | .ok typed => return typed
  | .error _ => return value

/-- The predicate of a comparison. -/
def compileComparison (now : Timestamp) (relation : Relation) (comparison : Comparison)
    (lexeme : String) (children : List Tree) : Guarded Predicate := do
  let place ← subject relation lexeme children
  match children[1]? with
  | none => .error (.error (.shape (.tree (.noOperand lexeme))))
  | some literal => return .compare place comparison (← operand now relation place literal)

/-- The predicate of a match with a pattern, which must be a text. -/
def compileLike (now : Timestamp) (relation : Relation) (lexeme : String) (children : List Tree) :
    Guarded Predicate := do
  let place ← subject relation lexeme children
  match children[1]? with
  | none => .error (.error .typeMismatch)
  | some literal =>
    match ← lift (literal.literalValue now) with
    | .text pattern => return .like place pattern.toList
    | _ => .error (.error .typeMismatch)

/-- The predicate of membership in a list, which stands behind the column. -/
def compileIn (now : Timestamp) (relation : Relation) (lexeme : String) (children : List Tree) :
    Guarded Predicate := do
  let place ← subject relation lexeme children
  let literals ← slice children 1
  return .isIn place (← literals.mapM (operand now relation place))

mutual

/-- The predicate of a condition on the rows of a table. -/
def compile (now : Timestamp) (relation : Relation) : Tree → Guarded Predicate
  | ⟨token, lexeme, children⟩ =>
    match token with
    | .allOf => return .all (← compileAll now relation children)
    | .anyOf => return .any (← compileAll now relation children)
    | .isNull => return .isNull (← subject relation lexeme children)
    | .isNotNull => return .isNotNull (← subject relation lexeme children)
    | .inList => compileIn now relation lexeme children
    | .like => compileLike now relation lexeme children
    | other =>
      match Comparison.ofToken? other with
      | some comparison => compileComparison now relation comparison lexeme children
      | none => .error (.error (.shape (.tree (.predicate other))))

/-- The predicates of several conditions. -/
def compileAll (now : Timestamp) (relation : Relation) : List Tree → Guarded (List Predicate)
  | [] => return []
  | tree :: trees => return (← compile now relation tree) :: (← compileAll now relation trees)

end

/-- The predicate of an optional clause. -/
def compileClause (now : Timestamp) (relation : Relation) : Option Tree → Guarded Predicate
  | none => .ok (.all [])
  | some clause =>
    match clause.onlyChild? with
    | some condition => compile now relation condition
    | none => .error (.error (.shape (.tree (.arguments "where"))))

/-- Whether a cell matches a pattern. -/
def isLike (pattern : List Char) : Value → Guarded Bool
  | .text text => Pattern.trace pattern text.toList .start
  | .null => .ok false
  | _ => .error (.error .typeMismatch)

mutual

/-- Whether a row meets a predicate. -/
def holds (row : Row) : Predicate → Guarded Bool
  | .all conditions => allHold row conditions
  | .any conditions => anyHolds row conditions
  | .compare place comparison value => do
    lift (Predicate.comparesWith comparison (← lookup row place) value)
  | .like place pattern => do isLike pattern (← lookup row place)
  | .isIn place values => return Predicate.isAmong values (← lookup row place)
  | .isNull place => return (← lookup row place).isNull
  | .isNotNull place => return !(← lookup row place).isNull

/-- Whether a row meets several predicates, up to the first that it does not meet. -/
def allHold (row : Row) : List Predicate → Guarded Bool
  | [] => return true
  | condition :: conditions => do
    if ← holds row condition then allHold row conditions else return false

/-- Whether a row meets one of several predicates, up to the first that it meets. -/
def anyHolds (row : Row) : List Predicate → Guarded Bool
  | [] => return false
  | condition :: conditions => do
    if ← holds row condition then return true else anyHolds row conditions

end

/-! ## Reading a condition -/

/-- The subject of a condition is its first child, and its operands are the children behind. -/
theorem subject_eq_lift (relation : Relation) (lexeme : String) (children : List Tree) :
    subject relation lexeme children =
      lift ((fun found => found.1.2) <$> Predicate.subject relation lexeme children) := by
  unfold subject Predicate.subject
  cases children with
  | nil => rfl
  | cons first operands =>
      rw [List.head?_cons]
      split
      · rename_i same
        cases same
        rw [columnPlace_eq_lift]
        simp only [map_bind]
        cases relation.column _ <;> rfl
      · rename_i other
        split
        · rename_i same
          cases same
          exact absurd rfl (other _ _)
        · rfl

theorem operands_of_subject {lexeme : String} {children operands : List Tree} {column : Column}
    {place : Nat}
    (found : Predicate.subject relation lexeme children = .ok ((column, place), operands)) :
    relation.columns[place]? = some column ∧ ∃ first, children = first :: operands := by
  unfold Predicate.subject at found
  split at found
  · simp only [Checked.bind_eq_ok, Checked.pure_eq_ok, Prod.mk.injEq] at found
    obtain ⟨_, here, rfl, rfl⟩ := found
    exact ⟨Relation.getElem?_of_column here, _, rfl⟩
  · contradiction

theorem operand_eq_lift {place : Nat} {column : Column}
    (there : relation.columns[place]? = some column) (tree : Tree) :
    operand now relation place tree = lift (Predicate.operand now column tree) := by
  refine bind_lift_eq_lift fun value _ => ?_
  rw [lookup_eq_ok there]
  change (match column.type.coerce value with | .ok typed => _ | .error _ => _) = _
  cases column.type.coerce value <;> rfl

theorem compileComparison_eq_lift (comparison : Comparison) (lexeme : String)
    (children : List Tree) :
    compileComparison now relation comparison lexeme children =
      lift (Predicate.ofComparison now relation comparison lexeme children) := by
  refine bind_eq_lift (subject_eq_lift relation lexeme children) ?_
  rintro ⟨⟨column, place⟩, operands⟩ found
  obtain ⟨there, first, rfl⟩ := operands_of_subject found
  cases operands with
  | nil => rfl
  | cons literal operands =>
      change (operand now relation place literal >>= _) = _
      rw [operand_eq_lift there]
      exact bind_lift_eq_lift fun _ _ => rfl

theorem compileLike_eq_lift (lexeme : String) (children : List Tree) :
    compileLike now relation lexeme children =
      lift (Predicate.ofLike now relation lexeme children) := by
  refine bind_eq_lift (subject_eq_lift relation lexeme children) ?_
  rintro ⟨⟨column, place⟩, operands⟩ found
  obtain ⟨there, first, rfl⟩ := operands_of_subject found
  cases operands with
  | nil => rfl
  | cons literal operands =>
      refine bind_lift_eq_lift fun value _ => ?_
      cases value <;> rfl

theorem compileIn_eq_lift (lexeme : String) (children : List Tree) :
    compileIn now relation lexeme children =
      lift (Predicate.ofIn now relation lexeme children) := by
  refine bind_eq_lift (subject_eq_lift relation lexeme children) ?_
  rintro ⟨⟨column, place⟩, operands⟩ found
  obtain ⟨there, first, rfl⟩ := operands_of_subject found
  rw [slice_eq_ok (by simp)]
  change (operands.mapM (operand now relation place) >>= _) = _
  rw [mapM_lift fun literal _ => operand_eq_lift there literal]
  exact bind_lift_eq_lift fun _ _ => rfl

mutual

/-- A condition is read as it is without a look at places. -/
theorem compile_eq_lift (now : Timestamp) (relation : Relation) (tree : Tree) :
    compile now relation tree = lift (Predicate.ofTree now relation tree) := by
  obtain ⟨token, lexeme, children⟩ := tree
  have test (test : Nat → Predicate) : (return test (← subject relation lexeme children)) =
      lift (Predicate.ofNullTest relation test lexeme children) :=
    bind_eq_lift (subject_eq_lift relation lexeme children) fun _ _ => rfl
  unfold compile
  split
  · rw [compileAll_eq_lift now relation children]
    exact bind_lift_eq_lift fun _ _ => rfl
  · rw [compileAll_eq_lift now relation children]
    exact bind_lift_eq_lift fun _ _ => rfl
  · exact test .isNull
  · exact test .isNotNull
  · exact compileIn_eq_lift lexeme children
  · exact compileLike_eq_lift lexeme children
  · rw [Predicate.ofTree]
    · cases Comparison.ofToken? token with
      | some comparison => exact compileComparison_eq_lift comparison lexeme children
      | none => rfl
    all_goals assumption

theorem compileAll_eq_lift (now : Timestamp) (relation : Relation) (trees : List Tree) :
    compileAll now relation trees = lift (Predicate.ofTrees now relation trees) := by
  cases trees with
  | nil => rfl
  | cons tree trees =>
      rw [compileAll, Predicate.ofTrees, compile_eq_lift now relation tree,
        compileAll_eq_lift now relation trees]
      exact bind_lift_eq_lift fun _ _ => bind_lift_eq_lift fun _ _ => rfl

end

theorem compileClause_eq_lift (now : Timestamp) (relation : Relation) (clause : Option Tree) :
    compileClause now relation clause = lift (Predicate.ofClause now relation clause) := by
  cases clause with
  | none => rfl
  | some clause =>
      rw [compileClause, Predicate.ofClause]
      cases clause.onlyChild? with
      | none => rfl
      | some condition => exact compile_eq_lift now relation condition

/-! ## Rows that meet a condition -/

theorem isLike_eq_lift (pattern : List Char) (cell : Value) :
    isLike pattern cell = lift (Predicate.isLike pattern cell) := by
  cases cell with
  | text text => exact Pattern.trace_start pattern text.toList
  | null => rfl
  | integer _ => rfl
  | real _ => rfl
  | boolean _ => rfl
  | date _ => rfl
  | timestamp _ => rfl

theorem lookup_eq_lift {row : Row} {place : Nat} (inside : place < row.length) :
    lookup row place = lift (row.cell place) := by
  rw [lookup, Row.cell, List.getElem?_eq_getElem inside]
  rfl

variable {row : Row}

mutual

/-- Of a row that has all the cells that a predicate looks at, the predicate holds or fails as it
does without a look at places. -/
theorem holds_eq_lift {predicate : Predicate} (within : predicate.Within row.length) :
    holds row predicate = lift (predicate.holds row) := by
  cases predicate with
  | all conditions => exact allHold_eq_lift within
  | any conditions => exact anyHolds_eq_lift within
  | compare place comparison value =>
      rw [holds, Predicate.holds, lookup_eq_lift within]
      exact bind_lift_eq_lift fun _ _ => rfl
  | like place pattern =>
      rw [holds, Predicate.holds, lookup_eq_lift within]
      exact bind_lift_eq_lift fun cell _ => isLike_eq_lift pattern cell
  | isIn place values =>
      rw [holds, Predicate.holds, lookup_eq_lift within]
      exact bind_lift_eq_lift fun _ _ => rfl
  | isNull place =>
      rw [holds, Predicate.holds, lookup_eq_lift within]
      exact bind_lift_eq_lift fun _ _ => rfl
  | isNotNull place =>
      rw [holds, Predicate.holds, lookup_eq_lift within]
      exact bind_lift_eq_lift fun _ _ => rfl

theorem allHold_eq_lift {conditions : List Predicate}
    (within : Predicate.AllWithin row.length conditions) :
    allHold row conditions = lift (Predicate.allHold row conditions) := by
  cases conditions with
  | nil => rfl
  | cons condition conditions =>
      rw [allHold, Predicate.allHold, holds_eq_lift within.1]
      refine bind_lift_eq_lift fun met _ => ?_
      cases met with
      | true => exact allHold_eq_lift within.2
      | false => rfl

theorem anyHolds_eq_lift {conditions : List Predicate}
    (within : Predicate.AllWithin row.length conditions) :
    anyHolds row conditions = lift (Predicate.anyHolds row conditions) := by
  cases conditions with
  | nil => rfl
  | cons condition conditions =>
      rw [anyHolds, Predicate.anyHolds, holds_eq_lift within.1]
      refine bind_lift_eq_lift fun met _ => ?_
      cases met with
      | true => rfl
      | false => exact anyHolds_eq_lift within.2

end

end Guarded
end SqlEngine
