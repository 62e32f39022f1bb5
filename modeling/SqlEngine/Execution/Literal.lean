import SqlEngine.Relation
import SqlEngine.Statement.Tree

/-!
# Values of literals

The value that a node of a statement stands for, and the names that nodes carry.

The current time is an input.  It is the same for all nodes of a request, where a clock that is read at
each node would go on between them.
-/

namespace SqlEngine
namespace Tree

/-- The number that a text stands for: a real if it has a point, else an integer. -/
def numberValue (lexeme : String) : Except Error Value :=
  let chars := lexeme.toList
  let read :=
    if chars.contains '.' then (Binary64.ofText? lexeme).map Value.real
    else (Numeral.integer? chars).map Value.integer
  match read with
  | some value => .ok value
  | none => .error (.parse (.number lexeme))

/-- The value of a literal at a given time. -/
def literalValue (now : Timestamp) (tree : Tree) : Except Error Value :=
  match tree.token with
  | .nullWord => .ok .null
  | .trueWord => .ok (.boolean true)
  | .falseWord => .ok (.boolean false)
  | .stringLit => .ok (.text tree.lexeme)
  | .now => .ok (.timestamp now)
  | .number => numberValue tree.lexeme
  | other => .error (.shape (.tree (.literal other)))

/-- The name that a node carries. -/
def identifier (node : Option Tree) (of : String) : Except Error String :=
  match node with
  | some ⟨.identifier, name, _⟩ => .ok name
  | _ => .error (.shape (.tree (.noName of)))

/-- The value of a literal as a column of a given type takes it. -/
def typedValue (now : Timestamp) (type : ColumnType) (tree : Tree) : Except Error Value := do
  type.coerce (← tree.literalValue now)

/-- A part of a tree that must be there. -/
def require {α : Type} (part : Option α) (fault : TreeFault) : Except Error α :=
  match part with
  | some value => .ok value
  | none => .error (.shape (.tree fault))

end Tree
end SqlEngine
