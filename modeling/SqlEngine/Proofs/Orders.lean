import SqlEngine.Execution.Query
import SqlEngine.Proofs.Conformance
import SqlEngine.Proofs.Families

/-!
# The order of values in an answer

Nulls stand in front of all values, and other values stand as they compare.  Among values that one
type holds this is a total order up to ties, and sorting follows it: it never meets two values that do
not compare.
-/

namespace SqlEngine

namespace Value

/-- Whether a value may stand in front of another: a null in front of all values, and others as they
compare. -/
inductive Precedes : Value → Value → Prop where
  /-- A null precedes all values. -/
  | null (value : Value) : Precedes .null value
  /-- A value precedes another that is not less. -/
  | ordered {left right : Value} {order : Ordering} (compared : left.compare? right = some order)
      (notGreater : order ≠ .gt) : Precedes left right

/-- Whether the comparison that sorting uses is a total preorder on values, and the one in which
they precede each other. -/
structure Ranked (cells : Value → Prop) : Prop where
  /-- Two values are compared alike from both sides. -/
  swap : ∀ left right, cells left → cells right → right.sortOrder left = (left.sortOrder right).swap
  /-- A value is not greater than another that is not less than a value in between. -/
  trans : ∀ left middle right, cells left → cells middle → cells right →
    left.sortOrder middle ≠ .gt → middle.sortOrder right ≠ .gt → left.sortOrder right ≠ .gt
  /-- A value is not greater than those that it precedes. -/
  follows : ∀ left right, cells left → cells right →
    (left.sortOrder right ≠ .gt ↔ left.Precedes right)

end Value

namespace ColumnType

/-- The family of the values that a type holds. -/
def family : ColumnType → Family
  | integer | serial => .integers
  | real => .reals
  | text | varchar _ => .texts
  | boolean => .booleans
  | date | timestamp => .moments

theorem contains_of_suits {type : ColumnType} {value : Value} (suits : type.Suits value) :
    type.family.Contains value := by
  cases type with
  | real =>
      obtain ⟨negative, rank, rfl⟩ := suits
      exact fun nan => by cases nan
  | _ =>
      obtain ⟨content, rfl⟩ := suits
      trivial

/-- The values of a type other than null stand for contents, and compare as these do. -/
theorem exists_contents (type : ColumnType) :
    ∃ (α : Type) (content : α → Value) (order : α → α → Ordering), Std.TransCmp order ∧
      (∀ left right, (content left).compare? (content right) = some (order left right)) ∧
      ∀ value, type.Holds value → value = .null ∨ ∃ inside, value = content inside := by
  obtain ⟨α, content, order, transitive, compared, contents⟩ := type.family.exists_contents
  refine ⟨α, content, order, transitive, compared, fun value held => ?_⟩
  refine or_iff_not_imp_left.mpr fun value_ne => contents value ?_
  exact contains_of_suits (suits_of_holds held value_ne)

end ColumnType

namespace Value

@[simp]
theorem sortOrder_null_null : null.sortOrder null = .eq :=
  rfl

theorem sortOrder_of_compare? {left right : Value} {order : Ordering}
    (compared : left.compare? right = some order) :
    left.sortOrder right = order ∧ left.sortOrder null = .gt ∧ null.sortOrder right = .lt := by
  cases left <;> cases right <;> first | contradiction | simp [sortOrder, isNull, compared]

theorem precedes_iff_of_compare? {left right : Value} {order : Ordering}
    (compared : left.compare? right = some order) : left.Precedes right ↔ order ≠ .gt := by
  refine ⟨?_, .ordered compared⟩
  rintro (_ | ⟨compared', notGreater⟩)
  · cases compared
  · rwa [Option.some.inj (compared.symm.trans compared')]

theorem not_precedes_null {value : Value} {order : Ordering}
    (compared : value.compare? value = some order) : ¬ value.Precedes null := by
  rintro (_ | ⟨compared', -⟩)
  · cases compared
  · cases value <;> cases compared'

/-- Among the values that a type holds, the comparison that sorting uses is a total preorder. -/
theorem ranked_of_type (type : ColumnType) : Ranked type.Holds := by
  obtain ⟨α, content, order, transitive, compared, contents⟩ := type.exists_contents
  have sorted (left right : α) := (sortOrder_of_compare? (compared left right)).1
  have front (left : α) := (sortOrder_of_compare? (compared left left)).2.1
  have back (right : α) := (sortOrder_of_compare? (compared right right)).2.2
  refine ⟨fun left right held held' => ?_, fun left middle right held held' held'' => ?_,
    fun left right held held' => ?_⟩
  · obtain rfl | ⟨left, rfl⟩ := contents left held <;>
      obtain rfl | ⟨right, rfl⟩ := contents right held'
    · rfl
    · simp [front, back]
    · simp [front, back]
    · simpa only [sorted] using Std.OrientedCmp.eq_swap
  · obtain rfl | ⟨left, rfl⟩ := contents left held <;>
      obtain rfl | ⟨middle, rfl⟩ := contents middle held' <;>
        obtain rfl | ⟨right, rfl⟩ := contents right held''
    case inr.inr.inr =>
      simpa only [sorted, Ordering.ne_gt_iff_isLE] using Std.TransCmp.isLE_trans
    all_goals simp [front, back]
  · obtain rfl | ⟨left, rfl⟩ := contents left held <;>
      obtain rfl | ⟨right, rfl⟩ := contents right held'
    · simp [Precedes.null]
    · simp [back, Precedes.null]
    · simp [front, not_precedes_null (compared left left)]
    · rw [sorted, precedes_iff_of_compare? (compared left right)]

end Value
end SqlEngine
