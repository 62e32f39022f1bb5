import SqlEngine.Execution.Literal
import SqlEngine.Pattern

/-!
# Predicates

The condition of a statement becomes a predicate before any row is looked at: names of columns turn
into places, and literals into values of the types of their columns where they can.  A predicate then
holds of a row, or does not, or fails because a cell and a value have no order.
-/

namespace SqlEngine

/-- A comparison of two values. -/
inductive Comparison where
  /-- Equal. -/
  | equal
  /-- Not equal. -/
  | notEqual
  /-- Less. -/
  | less
  /-- Less or equal. -/
  | lessOrEqual
  /-- Greater. -/
  | greater
  /-- Greater or equal. -/
  | greaterOrEqual
  deriving DecidableEq

namespace Comparison

/-- The comparison of a token. -/
def ofToken? : Token → Option Comparison
  | .equal => some equal
  | .notEqual => some notEqual
  | .less => some less
  | .lessOrEqual => some lessOrEqual
  | .greater => some greater
  | .greaterOrEqual => some greaterOrEqual
  | _ => none

/-- Whether a comparison holds of two values in a given order. -/
def holds : Comparison → Ordering → Bool
  | equal, order => order == .eq
  | notEqual, order => order != .eq
  | less, order => order == .lt
  | lessOrEqual, order => order != .gt
  | greater, order => order == .gt
  | greaterOrEqual, order => order != .lt

end Comparison

/-- A condition on the rows of a table. -/
inductive Predicate where
  /-- All of several conditions. -/
  | all (conditions : List Predicate)
  /-- Any of several conditions. -/
  | any (conditions : List Predicate)
  /-- The cell at a place compares with a value. -/
  | compare (place : Nat) (comparison : Comparison) (value : Value)
  /-- The text at a place matches a pattern. -/
  | like (place : Nat) (pattern : List Char)
  /-- The cell at a place is one of several values. -/
  | isIn (place : Nat) (values : List Value)
  /-- The cell at a place is a null. -/
  | isNull (place : Nat)
  /-- The cell at a place is no null. -/
  | isNotNull (place : Nat)

namespace Predicate

/-- The column that a condition is about, and its operands. -/
def subject (relation : Relation) (lexeme : String) :
    List Tree → Except Error ((Column × Nat) × List Tree)
  | ⟨.identifier, name, _⟩ :: operands => do return (← relation.column name, operands)
  | _ => .error (.shape (.tree (.noColumn lexeme)))

/-- The value of an operand, in the type of the column if it can have it. -/
def operand (now : Timestamp) (column : Column) (tree : Tree) : Except Error Value := do
  let value ← tree.literalValue now
  match column.type.coerce value with
  | .ok typed => return typed
  | .error _ => return value

/-- The predicate of a comparison. -/
def ofComparison (now : Timestamp) (relation : Relation) (comparison : Comparison)
    (lexeme : String) (children : List Tree) : Except Error Predicate := do
  let ((column, place), operands) ← subject relation lexeme children
  match operands with
  | [] => .error (.shape (.tree (.noOperand lexeme)))
  | literal :: _ => return compare place comparison (← operand now column literal)

/-- The predicate of a match with a pattern, which must be a text. -/
def ofLike (now : Timestamp) (relation : Relation) (lexeme : String) (children : List Tree) :
    Except Error Predicate := do
  let ((_, place), operands) ← subject relation lexeme children
  match operands with
  | [] => .error .typeMismatch
  | literal :: _ =>
    match ← literal.literalValue now with
    | .text pattern => return like place pattern.toList
    | _ => .error .typeMismatch

/-- The predicate of membership in a list. -/
def ofIn (now : Timestamp) (relation : Relation) (lexeme : String) (children : List Tree) :
    Except Error Predicate := do
  let ((column, place), operands) ← subject relation lexeme children
  return isIn place (← operands.mapM (operand now column))

/-- The predicate of a test for null. -/
def ofNullTest (relation : Relation) (test : Nat → Predicate) (lexeme : String)
    (children : List Tree) : Except Error Predicate := do
  let ((_, place), _) ← subject relation lexeme children
  return test place

mutual

/-- The predicate of a condition on the rows of a table. -/
def ofTree (now : Timestamp) (relation : Relation) : Tree → Except Error Predicate
  | ⟨token, lexeme, children⟩ =>
    match token with
    | .allOf => return all (← ofTrees now relation children)
    | .anyOf => return any (← ofTrees now relation children)
    | .isNull => ofNullTest relation isNull lexeme children
    | .isNotNull => ofNullTest relation isNotNull lexeme children
    | .inList => ofIn now relation lexeme children
    | .like => ofLike now relation lexeme children
    | other =>
      match Comparison.ofToken? other with
      | some comparison => ofComparison now relation comparison lexeme children
      | none => .error (.shape (.tree (.predicate other)))

/-- The predicates of several conditions. -/
def ofTrees (now : Timestamp) (relation : Relation) : List Tree → Except Error (List Predicate)
  | [] => return []
  | tree :: trees => return (← ofTree now relation tree) :: (← ofTrees now relation trees)

end

/-- The predicate of an optional clause; without one, every row meets it. -/
def ofClause (now : Timestamp) (relation : Relation) : Option Tree → Except Error Predicate
  | none => .ok (all [])
  | some clause =>
    match clause.onlyChild? with
    | some condition => ofTree now relation condition
    | none => .error (.shape (.tree (.arguments "where")))

/-- Whether a cell compares with a value.  A null compares with nothing. -/
def comparesWith (comparison : Comparison) (cell value : Value) : Except Error Bool :=
  if cell.isNull || value.isNull then .ok false
  else
    match cell.compare? value with
    | some order => .ok (comparison.holds order)
    | none => .error .typeMismatch

/-- Whether a cell matches a pattern. -/
def isLike (pattern : List Char) : Value → Except Error Bool
  | .text text => .ok (Pattern.accepts pattern text.toList)
  | .null => .ok false
  | _ => .error .typeMismatch

/-- Whether a cell is one of several values. -/
def isAmong (values : List Value) (cell : Value) : Bool :=
  !cell.isNull && values.any fun value => cell.compare? value == some .eq

mutual

/-- Whether a row meets a predicate. -/
def holds (row : Row) : Predicate → Except Error Bool
  | all conditions => allHold row conditions
  | any conditions => anyHolds row conditions
  | compare place comparison value => do comparesWith comparison (← row.cell place) value
  | like place pattern => do isLike pattern (← row.cell place)
  | isIn place values => return isAmong values (← row.cell place)
  | isNull place => return (← row.cell place).isNull
  | isNotNull place => return !(← row.cell place).isNull

/-- Whether a row meets several predicates, up to the first that it does not meet. -/
def allHold (row : Row) : List Predicate → Except Error Bool
  | [] => return true
  | condition :: conditions => do
    if ← holds row condition then allHold row conditions else return false

/-- Whether a row meets one of several predicates, up to the first that it meets. -/
def anyHolds (row : Row) : List Predicate → Except Error Bool
  | [] => return false
  | condition :: conditions => do
    if ← holds row condition then return true else anyHolds row conditions

end

/-- Every row with the mark whether it meets a predicate. -/
def mark (predicate : Predicate) (rows : List Row) : Except Error (List (Row × Bool)) :=
  rows.mapM fun row => return (row, ← predicate.holds row)

end Predicate
end SqlEngine
