import SqlEngine.Proofs.WellTyped

/-!
# Operands in the type of their column

A cell of a column has the same order to an operand as to the value that the type of the column
makes of it, wherever it has an order to the operand at all.  Only a moment loses something to a
column of days: its time of day, so that it is equal to the cell of its day and no longer behind it.
-/

namespace SqlEngine

theorem Time.midnight_compare {time : Time} (later : time ≠ midnight) :
    midnight.compare time = .lt := by
  have different : midnight.compare time ≠ .eq := fun same => later (compare_eq_iff.mp same).symm
  have first (part : Nat) : Ord.compare 0 part ≠ .gt :=
    fun above => Nat.not_lt_zero part (Nat.compare_eq_gt.mp above)
  have none_before : midnight.compare time ≠ .gt := by
    simp only [compare, midnight, ne_eq, Ordering.then_eq_gt, first, false_or, and_false,
      not_false_eq_true]
  cases order : midnight.compare time with
  | lt => rfl
  | eq => contradiction
  | gt => contradiction

/-- Days and moments of different days are ordered as the days. -/
theorem Date.atMidnight_compare_of_ne {day : Date} {moment : Timestamp}
    (different : day ≠ moment.date) : day.atMidnight.compare moment = day.compare moment.date := by
  have apart : day.compare moment.date ≠ .eq := fun same => different (compare_eq_iff.mp same)
  rw [Timestamp.compare, atMidnight]
  cases order : day.compare moment.date with
  | eq => contradiction
  | lt => rfl
  | gt => rfl

theorem Date.atMidnight_compare_self {day : Date} {moment : Timestamp} (same : day = moment.date) :
    day.atMidnight.compare moment = Time.midnight.compare moment.time := by
  rw [Timestamp.compare, atMidnight, compare_eq_iff.mpr same]
  rfl

namespace Value

theorem compare?_null_left (value : Value) : null.compare? value = none := by
  cases value <;> rfl

theorem not_null_of_compare? {left right : Value} {order : Ordering}
    (compared : left.compare? right = some order) : (left.isNull || right.isNull) = false := by
  cases left with
  | null =>
      rw [compare?_null_left] at compared
      contradiction
  | _ =>
      cases right with
      | null => contradiction
      | _ => rfl

theorem compare?_nan_left (value : Value) : (real .nan).compare? value = none := by
  cases value <;> rfl

end Value

namespace ColumnType

/-- Whether a type takes the time of day from a moment that falls on the day of a cell. -/
def DropsTime : ColumnType → Value → Value → Prop
  | date, .date day, .timestamp moment => moment.date = day ∧ moment.time ≠ Time.midnight
  | _, _, _ => False

/-- A cell that has an order to something, and that its type leaves as it is, is of the kind that
the type is for. -/
theorem suits_of_compare? {type : ColumnType} {cell value : Value} {order : Ordering}
    (held : type.coerce cell = .ok cell) (compared : cell.compare? value = some order) :
    type.Suits cell := by
  refine suits_of_holds ⟨held, ?_⟩ ?_
  · rintro rfl
    rw [Value.compare?_nan_left] at compared
    contradiction
  · rintro rfl
    rw [Value.compare?_null_left] at compared
    contradiction

/-- Where a type takes the time of day from a moment, the cell was before the moment, and is equal
to what is left. -/
theorem DropsTime.compare? {type : ColumnType} {cell value : Value}
    (drops : type.DropsTime cell value) :
    cell.compare? value = some .lt ∧
      ∃ typed, type.coerce value = .ok typed ∧ cell.compare? typed = some .eq := by
  unfold DropsTime at drops
  split at drops
  · obtain ⟨same, later⟩ := drops
    refine ⟨?_, _, rfl, congrArg some (Date.compare_eq_iff.mpr same.symm)⟩
    rw [Value.compare?, Date.atMidnight_compare_self same.symm, Time.midnight_compare later]
  · contradiction

/-- Otherwise a cell that has an order to an operand has the same order to the operand in the type
of the cell. -/
theorem compare?_of_coerce {type : ColumnType} {cell value typed : Value} {order : Ordering}
    (held : type.coerce cell = .ok cell) (converted : type.coerce value = .ok typed)
    (keeps : ¬ type.DropsTime cell value) (compared : cell.compare? value = some order) :
    cell.compare? typed = some order := by
  have suits := suits_of_compare? held compared
  unfold coerce at converted
  split at converted
  -- Most conversions give the value itself, or what the comparison makes of it as well.
  case h_5 =>
    obtain rfl := Except.ok.inj converted
    obtain ⟨negative, rank, rfl⟩ := suits
    exact compared
  case h_7 =>
    split at converted
    · contradiction
    · obtain rfl := Except.ok.inj converted
      exact compared
  case h_9 =>
    obtain ⟨truth, rfl⟩ := suits
    contradiction
  case h_11 moment =>
    obtain rfl := Except.ok.inj converted
    obtain ⟨day, rfl⟩ := suits
    rw [← compared]
    refine congrArg some ?_
    by_cases same : day = moment.date
    · have midnight : moment.time = Time.midnight := by
        by_contra later
        exact keeps ⟨same.symm, later⟩
      rw [Date.atMidnight_compare_self same, midnight, Date.compare_eq_iff.mpr same,
        Time.compare_eq_iff.mpr rfl]
    · exact (Date.atMidnight_compare_of_ne same).symm
  case h_12 content =>
    obtain ⟨day, rfl⟩ := suits
    split at converted
    · obtain rfl := Except.ok.inj converted
      rename_i read
      rw [← compared, Value.compare?, Value.compare?, read, Option.map_some]
    · contradiction
  case h_14 =>
    obtain rfl := Except.ok.inj converted
    obtain ⟨moment, rfl⟩ := suits
    exact compared
  case h_15 content =>
    obtain ⟨moment, rfl⟩ := suits
    split at converted
    · obtain rfl := Except.ok.inj converted
      rename_i read
      rw [← compared, Value.compare?, Value.compare?, read, Option.map_some]
    · contradiction
  case h_16 => contradiction
  all_goals
    obtain rfl := Except.ok.inj converted
    exact compared

end ColumnType

namespace Predicate

variable {now : Timestamp} {column : Column} {tree : Tree} {cell value typed : Value}

theorem comparesWith_of_compare? {order : Ordering} (comparison : Comparison)
    (compared : cell.compare? value = some order) :
    comparesWith comparison cell value = .ok (comparison.holds order) := by
  rw [comparesWith, Value.not_null_of_compare? compared, compared]
  rfl

theorem holds_compare {row : Row} {place : Nat} (here : row.cell place = .ok cell)
    (comparison : Comparison) (value : Value) :
    (compare place comparison value).holds row = comparesWith comparison cell value := by
  rw [holds, here]
  rfl

/-- A comparison that does not fail is one with a null, or of values that have an order. -/
theorem missing_or_ordered {comparison : Comparison} {truth : Bool}
    (compared : comparesWith comparison cell value = .ok truth) :
    (cell.isNull || value.isNull) = true ∧ truth = false ∨
      ∃ order, cell.compare? value = some order ∧ truth = comparison.holds order := by
  unfold comparesWith at compared
  split at compared
  · rename_i missing
    exact .inl ⟨missing, (Except.ok.inj compared).symm⟩
  · split at compared
    · rename_i order ordered
      exact .inr ⟨order, ordered, (Except.ok.inj compared).symm⟩
    · contradiction

theorem operand_of_literal (read : tree.literalValue now = .ok value) :
    operand now column tree = .ok typed ↔
      column.type.coerce value = .ok typed ∨
        (∃ fault, column.type.coerce value = .error fault) ∧ typed = value := by
  rw [operand, read, Checked.bind_eq_ok]
  cases converted : column.type.coerce value with
  | ok result => simp [converted, Checked.pure_eq_ok]
  | error fault => simp [converted, Checked.pure_eq_ok, @eq_comm _ typed]

/-- What an operand says of a cell as it is written, it says in the type of the column too, unless
this takes a time of day from it. -/
theorem comparesWith_operand {comparison : Comparison} {truth : Bool}
    (held : column.type.coerce cell = .ok cell) (read : tree.literalValue now = .ok value)
    (made : operand now column tree = .ok typed) (keeps : ¬ column.type.DropsTime cell value)
    (compared : comparesWith comparison cell value = .ok truth) :
    comparesWith comparison cell typed = .ok truth := by
  rcases (operand_of_literal read).mp made with converted | ⟨-, rfl⟩
  · rcases missing_or_ordered compared with ⟨missing, rfl⟩ | ⟨order, ordered, rfl⟩
    · rcases Bool.or_eq_true_iff.mp missing with no_cell | no_value
      · rw [comparesWith, no_cell]
        rfl
      · obtain rfl : value = .null := by
          cases value with
          | null => rfl
          | _ => contradiction
        obtain rfl : Value.null = typed := Except.ok.inj converted
        rw [comparesWith, no_value, Bool.or_true]
        rfl
    · exact comparesWith_of_compare? comparison
        (ColumnType.compare?_of_coerce held converted keeps ordered)
  · exact compared

end Predicate

/-- A cell that its type leaves as it is has the same order to an operand as to the operand in that
type, and so an operand in the type of its column answers every comparison that it answers as it is
written, in the same way.  Only of a moment a column of days takes the time of day: the cell of its
day is no longer less than the operand, but equal to it. -/
theorem ColumnType.conversion_keeps_order {type : ColumnType} {cell : Value}
    (held : type.coerce cell = .ok cell) :
    (∀ value typed order, type.coerce value = .ok typed → cell.compare? value = some order →
      (¬ type.DropsTime cell value → cell.compare? typed = some order) ∧
      (type.DropsTime cell value → order = .lt ∧ cell.compare? typed = some .eq)) ∧
    ∀ now (column : Column) (tree : Tree) value, column.type = type →
      tree.literalValue now = .ok value →
      ∃ typed, Predicate.operand now column tree = .ok typed ∧
        ∀ comparison,
          (¬ type.DropsTime cell value → ∀ truth,
            Predicate.comparesWith comparison cell value = .ok truth →
            Predicate.comparesWith comparison cell typed = .ok truth) ∧
          (type.DropsTime cell value →
            Predicate.comparesWith comparison cell value = .ok (comparison.holds .lt) ∧
            Predicate.comparesWith comparison cell typed = .ok (comparison.holds .eq)) := by
  constructor
  · intro value typed order converted compared
    refine ⟨fun keeps => compare?_of_coerce held converted keeps compared, fun drops => ?_⟩
    obtain ⟨before, day, same, equal⟩ := drops.compare?
    obtain rfl := Except.ok.inj (same.symm.trans converted)
    exact ⟨Option.some.inj (compared.symm.trans before), equal⟩
  · rintro now column tree value rfl read
    cases converted : column.type.coerce value with
    | ok typed =>
        have made := (Predicate.operand_of_literal read).mpr (.inl converted)
        refine ⟨typed, made, fun comparison => ⟨fun keeps truth compared =>
          Predicate.comparesWith_operand held read made keeps compared, fun drops => ?_⟩⟩
        obtain ⟨before, day, same, equal⟩ := drops.compare?
        obtain rfl := Except.ok.inj (same.symm.trans converted)
        exact ⟨Predicate.comparesWith_of_compare? comparison before,
          Predicate.comparesWith_of_compare? comparison equal⟩
    | error fault =>
        have made := (Predicate.operand_of_literal read).mpr (.inr ⟨⟨fault, converted⟩, rfl⟩)
        refine ⟨value, made, fun comparison => ⟨fun _ _ compared => compared, fun drops => ?_⟩⟩
        obtain ⟨-, day, same, -⟩ := drops.compare?
        rw [same] at converted
        contradiction

/-- A day, and the text of a later one. -/
theorem ColumnType.day_before_text :
    let day : Date := ⟨2024, 1, 1, by decide⟩
    let later : Date := ⟨2024, 2, 3, by decide⟩
    date.coerce (.date day) = .ok (.date day) ∧
      date.coerce (.text "2024-02-03") = .ok (.date later) ∧
      (Value.date day).compare? (.text "2024-02-03") = some .lt ∧
      (Value.date day).compare? (.date later) = some .lt := by
  intro day later
  have held : date.coerce (.date day) = .ok (.date day) := rfl
  have converted : date.coerce (.text "2024-02-03") = .ok (.date later) := by decide +kernel
  have compared : (Value.date day).compare? (.text "2024-02-03") = some .lt := by decide +kernel
  exact ⟨held, converted, compared,
    ((conversion_keeps_order held).1 _ _ _ converted compared).1 (by simp [DropsTime])⟩

/-- A day is before its noon, but a column of days makes the day of the noon. -/
theorem ColumnType.noon_becomes_its_day :
    let day : Date := ⟨2024, 1, 1, by decide⟩
    let noon : Timestamp := ⟨day, ⟨12, 0, 0, 0, by decide⟩⟩
    date.coerce (.date day) = .ok (.date day) ∧
      date.coerce (.timestamp noon) = .ok (.date day) ∧
      (Value.date day).compare? (.timestamp noon) = some .lt ∧
      (Value.date day).compare? (.date day) ≠ some .lt := by
  decide

end SqlEngine
