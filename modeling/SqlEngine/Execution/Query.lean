import SqlEngine.Database
import SqlEngine.Predicate
import SqlEngine.Reply

/-!
# Queries

The rows of a table that meet a condition are put in order, cut down to the chosen columns, and given
out from an offset up to a limit.  Rows that are equal in the order keep theirs.
-/

namespace SqlEngine

/-- What a query shows of the rows that it finds. -/
inductive Projection where
  /-- Columns with their places, in the order in which they are shown. -/
  | columns (chosen : List (Column × Nat))
  /-- The number of rows. -/
  | count

namespace Projection

/-- What a node chooses to show of a table. -/
def ofTree (relation : Relation) (tree : Tree) : Except Error Projection :=
  match tree.children with
  | ⟨.star, _, _⟩ :: _ => .ok (columns relation.columns.zipIdx)
  | ⟨.count, _, _⟩ :: _ => .ok count
  | ⟨.identifier, _, _⟩ :: _ => do
    return columns (← tree.children.mapM fun named => relation.column named.lexeme)
  | _ => .error (.shape (.tree .projection))

/-- The names over what is shown. -/
def header : Projection → List String
  | columns chosen => chosen.map (·.1.name)
  | count => ["COUNT(*)"]

/-- What is shown of the rows found. -/
def cells (rows : List Row) : Projection → Except Error (List (List (Option String)))
  | columns chosen => rows.mapM fun row => chosen.mapM fun (_, place) => do
    return (← row.cell place).cell?
  | count => .ok [[some (toString rows.length)]]

end Projection

namespace Value

/-- The order of values in an answer: nulls first, and values that have no order together. -/
def sortOrder (left right : Value) : Ordering :=
  match left.isNull, right.isNull with
  | true, true => .eq
  | true, false => .lt
  | false, true => .gt
  | false, false => (left.compare? right).getD .eq

end Value

/-- Whether a value may stand in front of another, in the order or in its reverse. -/
def inOrder (descending : Bool) (left right : Value) : Bool :=
  let order := left.sortOrder right
  (if descending then order.swap else order) != .gt

/-- The rows in the order that a clause asks for. -/
def sortRows (relation : Relation) (rows : List Row) (clause : Option Tree) :
    Except Error (List Row) :=
  match clause with
  | none => .ok rows
  | some order => do
    let named ← Tree.require order.onlyChild? (.arguments "order")
    let (_, place) ← relation.column named.lexeme
    let keyed ← rows.mapM fun row => return (← row.cell place, row)
    let sorted := keyed.mergeSort fun left right => inOrder (named.has .desc) left.1 right.1
    return sorted.map (·.2)

/-- The number of rows that a clause gives. -/
def rowCount (clause : Option Tree) : Except Error (Option Nat) :=
  match clause with
  | none => .ok none
  | some clause => do
    let number ← Tree.require clause.onlyChild? (.noRowCount clause.lexeme)
    match Numeral.unsigned? number.lexeme.toList with
    | some count => return some count
    | none => .error (.parse (.rowCount number.lexeme))

/-- The answer to a query. -/
def Database.runSelect (now : Timestamp) (database : Database) (tree : Tree) :
    Except Error Reply := do
  let source ← Tree.require (tree.find? .fromTable) (.missing "select" "FROM")
  let relation ← database.relation (← Tree.identifier source.onlyChild? "table")
  let chosen ← Tree.require (tree.find? .projection) (.missing "select" "a projection")
  let projection ← Projection.ofTree relation chosen
  let predicate ← Predicate.ofClause now relation (tree.find? .whereClause)
  let marked ← predicate.mark relation.rows
  let found := (marked.filter (·.2)).map (·.1)
  let sorted ← sortRows relation found (tree.find? .order)
  let cells ← projection.cells sorted
  let offset ← rowCount (tree.find? .offset)
  let limit ← rowCount (tree.find? .limit)
  let rest := cells.drop (offset.getD 0)
  return .rows projection.header (limit.elim rest rest.take)

end SqlEngine
