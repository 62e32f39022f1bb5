import SqlEngine.Proofs.Comparisons
import SqlEngine.Proofs.Histories
import SqlEngine.Proofs.Literals

/-!
# Columns with distinct values

Whether a column has a value twice is told by literals, but conditions compare values.  The two
differ in two points alone: the zeros are equal and have different literals, and the moments of one
second differ and have one literal.  So at most one row of a table that conforms is found by the
value of its key, unless several values of the type can be equal to that value.
-/

namespace SqlEngine
namespace Value

/-- Whether two values are different moments of one second. -/
def ShareSecond (first second : Value) : Prop :=
  ∃ left right, first = .timestamp left ∧ second = .timestamp right ∧ left ≠ right ∧
    left.SameSecond right

/-- Values of one kind have one literal when they are the same, or moments of one second. -/
theorem Alike.literal_eq_iff {first second : Value} (alike : Alike first second) :
    first.literal = second.literal ↔ first = second ∨ ShareSecond first second := by
  cases alike with
  | integers left right =>
      simp only [literal, ShareSecond, reduceCtorEq, false_and, exists_false, or_false,
        integer.injEq]
      rw [Int.toString_eq_repr, Int.toString_eq_repr, Int.repr_inj, Int64.toInt_inj]
  | reals negative negative' rank rank' =>
      simp only [literal, ShareSecond, reduceCtorEq, false_and, exists_false, or_false, real.injEq]
      exact realLiteral_inj (by simp) (by simp)
  | texts left right =>
      simp only [literal, ShareSecond, reduceCtorEq, false_and, exists_false, or_false, text.injEq]
      exact Text.quoted_inj
  | booleans left right =>
      cases left <;> cases right <;> simp [literal, ShareSecond]
  | dates left right =>
      simp only [literal, ShareSecond, reduceCtorEq, false_and, exists_false, or_false, date.injEq]
      rw [Text.quoted_inj, Date.toText, Date.toText, String.ofList_inj, Date.chars_inj]
  | timestamps left right =>
      simp only [literal, Text.quoted_inj, Timestamp.toText_inj, timestamp.injEq]
      constructor
      · intro same
        by_cases equal : left = right
        · exact .inl equal
        · exact .inr ⟨left, right, rfl, rfl, equal, same⟩
      · rintro (rfl | ⟨_, _, first, second, -, same⟩)
        · exact ⟨rfl, rfl, rfl, rfl⟩
        · obtain rfl := timestamp.inj first
          obtain rfl := timestamp.inj second
          exact same

/-- Whether a condition finds two cells equal. -/
def Equal (first second : Value) : Prop :=
  Predicate.comparesWith .equal first second = .ok true

theorem equal_iff {first second : Value} :
    Equal first second ↔ first ≠ .null ∧ second ≠ .null ∧ first.compare? second = some .eq := by
  unfold Equal Predicate.comparesWith
  by_cases null : (first.isNull || second.isNull) = true
  · rw [if_pos null]
    simp only [Bool.or_eq_true, isNull_iff] at null
    constructor
    · intro holds
      cases holds
    · rintro ⟨first_ne, second_ne, -⟩
      exact (null.elim first_ne second_ne).elim
  · rw [if_neg null]
    simp only [Bool.or_eq_true, isNull_iff, not_or] at null
    cases first.compare? second with
    | none => simp
    | some order => simp [Comparison.holds, null]

/-- Whether two cells are equal, and not as the two zeros are. -/
def Repeats (first second : Value) : Prop :=
  Equal first second ∧ ¬ OppositeZeros first second

/-- Whether two cells are the same as far as literals tell; nulls are never the same. -/
def SameLiteral (first second : Value) : Prop :=
  first ≠ .null ∧ second ≠ .null ∧ first.literal = second.literal

theorem OppositeZeros.equal {first second : Value} (zeros : OppositeZeros first second) :
    Equal first second := by
  obtain ⟨negative, rfl, rfl⟩ := zeros
  have alike := Alike.reals negative (!negative) (.ofNat 0) (.ofNat 0)
  exact equal_iff.mpr ⟨by simp, by simp, alike.compare?_eq_iff.mpr (.inr ⟨negative, rfl, rfl⟩)⟩

theorem equal_iff_repeats {first second : Value} :
    Equal first second ↔ Repeats first second ∨ OppositeZeros first second := by
  constructor
  · intro equal
    by_cases zeros : OppositeZeros first second
    · exact .inr zeros
    · exact .inl ⟨equal, zeros⟩
  · rintro (repeats | zeros)
    · exact repeats.1
    · exact zeros.equal

/-- Cells of one column have one literal when they repeat a value, or are moments of one second. -/
theorem sameLiteral_iff {type : ColumnType} {first second : Value} (first_held : type.Holds first)
    (second_held : type.Holds second) :
    SameLiteral first second ↔ Repeats first second ∨ ShareSecond first second := by
  constructor
  · rintro ⟨first_ne, second_ne, same⟩
    have alike := ColumnType.alike_of_holds first_held second_held first_ne second_ne
    rcases alike.literal_eq_iff.mp same with rfl | share
    · refine .inl ⟨equal_iff.mpr ⟨first_ne, second_ne, alike.compare?_eq_iff.mpr (.inl rfl)⟩, ?_⟩
      rintro ⟨negative, rfl, other⟩
      simp at other
    · exact .inr share
  · rintro (⟨equal, apart⟩ | ⟨left, right, rfl, rfl, differ, same⟩)
    · obtain ⟨first_ne, second_ne, order⟩ := equal_iff.mp equal
      have alike := ColumnType.alike_of_holds first_held second_held first_ne second_ne
      have same : first = second := (alike.compare?_eq_iff.mp order).resolve_right apart
      exact ⟨first_ne, second_ne, congrArg literal same⟩
    · have alike := Alike.timestamps left right
      exact ⟨by simp, by simp,
        alike.literal_eq_iff.mpr (.inr ⟨left, right, rfl, rfl, differ, same⟩)⟩

end Value

namespace Relation

/-- Whether a row has a cell for each column that the type of the column holds. -/
def Typed (relation : Relation) (row : Row) : Prop :=
  List.Forall₂ (fun column value => column.type.Holds value) relation.columns row

theorem Fits.typed {relation : Relation} {row : Row} (fits : relation.Fits row) :
    relation.Typed row :=
  fits.imp fun _ _ admitted => admitted.1

theorem Typed.holds {relation : Relation} {row : Row} (typed : relation.Typed row) {column : Column}
    {place : Nat} {value : Value} (here : relation.columns[place]? = some column)
    (there : row[place]? = some value) : column.type.Holds value :=
  Checked.related_of_getElem? typed here there

/-- Whether two of several rows have given cells in a column of a given type that must have distinct
values. -/
def KeyCells (relation : Relation) (rows : List Row) (type : ColumnType) (first second : Value) :
    Prop :=
  ∃ (column : Column) (place : Nat) (left right : Row), relation.columns[place]? = some column ∧
    column.type = type ∧ column.isUnique = true ∧ [left, right].Sublist rows ∧
    left[place]? = some first ∧ right[place]? = some second

theorem KeyCells.holds {relation : Relation} {rows : List Row} {type : ColumnType}
    {first second : Value} (cells : relation.KeyCells rows type first second)
    (typed : ∀ row ∈ rows, relation.Typed row) : type.Holds first ∧ type.Holds second := by
  obtain ⟨column, place, left, right, here, rfl, -, both, first_found, second_found⟩ := cells
  exact ⟨(typed left (both.subset (by simp))).holds here first_found,
    (typed right (both.subset (by simp))).holds here second_found⟩

/-- Whether two of several rows have related cells in a column that must have distinct values. -/
def HasPair (relation : Relation) (rows : List Row) (related : Value → Value → Prop) : Prop :=
  ∃ type first second, relation.KeyCells rows type first second ∧ related first second

theorem distinctKeys_iff {relation : Relation} {rows : List Row} :
    relation.DistinctKeys rows ↔ ¬ relation.HasPair rows Value.SameLiteral := by
  simp only [DistinctKeys, List.pairwise_iff_forall_sublist]
  constructor
  · rintro apart ⟨_, first, second, ⟨column, place, left, right, here, -, unique, both, first_found,
      second_found⟩, first_ne, second_ne, same⟩
    exact apart column place here unique both
      ⟨first, second, first_found, second_found, first_ne, second_ne, same⟩
  · rintro none column place here unique left right both ⟨first, second, first_found, second_found,
      same⟩
    exact none ⟨column.type, first, second, ⟨column, place, left, right, here, rfl, unique, both,
      first_found, second_found⟩, same⟩

/-- In rows of values of the types, a relation of two forms has a pair when one of them has. -/
theorem hasPair_or {relation : Relation} {rows : List Row}
    (typed : ∀ row ∈ rows, relation.Typed row) {related form form' : Value → Value → Prop}
    (forms : ∀ {type : ColumnType} {first second : Value}, type.Holds first → type.Holds second →
      (related first second ↔ form first second ∨ form' first second)) :
    relation.HasPair rows related ↔ relation.HasPair rows form ∨ relation.HasPair rows form' := by
  have split (type : ColumnType) (first second : Value) :
      relation.KeyCells rows type first second ∧ related first second ↔
        relation.KeyCells rows type first second ∧ form first second ∨
          relation.KeyCells rows type first second ∧ form' first second := by
    rw [← and_or_left]
    exact and_congr_right fun cells => forms (cells.holds typed).1 (cells.holds typed).2
  simp only [HasPair, split, exists_or]

theorem Typed.checkUnique_eq_ok {relation : Relation} {rows : List Row}
    (typed : ∀ row ∈ rows, relation.Typed row) :
    relation.checkUnique rows = .ok () ↔
      ¬ relation.HasPair rows Value.Repeats ∧ ¬ relation.HasPair rows Value.ShareSecond := by
  rw [Relation.checkUnique_eq_ok fun row member => (typed row member).length_eq.symm,
    distinctKeys_iff, hasPair_or typed Value.sameLiteral_iff, not_or]

end Relation

theorem Predicate.holds_of_mem_mark {predicate : Predicate} {rows : List Row}
    {marked : List (Row × Bool)} (done : predicate.mark rows = .ok marked) {row : Row}
    {chosen : Bool} (member : (row, chosen) ∈ marked) : predicate.holds row = .ok chosen := by
  obtain ⟨_, -, made⟩ := Checked.exists_of_mem_right (Checked.mapM_eq_ok.mp done) member
  simp only [Checked.bind_eq_ok, Checked.pure_eq_ok, Prod.mk.injEq] at made
  obtain ⟨_, holds, rfl, rfl⟩ := made
  exact holds

/-- A comparison holds of a row when it holds of the cell. -/
theorem Predicate.holds_equal_iff {place : Nat} {operand : Value} {row : Row} :
    (Predicate.compare place .equal operand).holds row = .ok true ↔
      ∃ value, row[place]? = some value ∧ value.Equal operand := by
  simp only [Predicate.holds, Checked.bind_eq_ok, Row.cell_eq_ok, Value.Equal]

private theorem countP_le_one {α : Type} {test : α → Bool} {items : List α}
    (apart : items.Pairwise fun left right => ¬ (test left = true ∧ test right = true)) :
    items.countP test ≤ 1 := by
  induction apart with
  | nil => simp
  | @cons item items others _ induction =>
      by_cases chosen : test item = true
      · have none : items.countP test = 0 :=
          List.countP_eq_zero.mpr fun other member also => others other member ⟨chosen, also⟩
        rw [List.countP_cons_of_pos chosen, none]
      · rw [List.countP_cons_of_neg chosen]
        exact induction

namespace Relation

/-- At most one row of a conforming table is found by the value of a key that its type does not
blur. -/
theorem Sound.countP_le_one_of_key {relation : Relation} (sound : relation.Sound) {column : Column}
    {place : Nat} (here : relation.columns[place]? = some column) (unique : column.isUnique = true)
    {operand : Value} (clear : ¬ column.type.Blurs operand) {marked : List (Row × Bool)}
    (marks : (Predicate.compare place .equal operand).mark relation.rows = .ok marked) :
    marked.countP (·.2) ≤ 1 := by
  have apart := sound.keys_distinct column place here unique
  rw [← Predicate.map_fst_mark marks, List.pairwise_map] at apart
  refine countP_le_one (apart.imp_of_mem ?_)
  rintro ⟨left, _⟩ ⟨right, _⟩ left_member right_member differ ⟨rfl, rfl⟩
  have typed {row : Row} (member : (row, true) ∈ marked) : relation.Typed row := by
    apply Fits.typed
    apply sound.rows_fit
    rw [← Predicate.map_fst_mark marks]
    exact List.mem_map_of_mem (f := (·.1)) member
  obtain ⟨first, first_found, first_equal⟩ :=
    Predicate.holds_equal_iff.mp (Predicate.holds_of_mem_mark marks left_member)
  obtain ⟨second, second_found, second_equal⟩ :=
    Predicate.holds_equal_iff.mp (Predicate.holds_of_mem_mark marks right_member)
  obtain ⟨first_ne, -, first_order⟩ := Value.equal_iff.mp first_equal
  obtain ⟨second_ne, -, second_order⟩ := Value.equal_iff.mp second_equal
  have same : first = second := ColumnType.eq_of_equal_operand
    (ColumnType.suits_of_holds ((typed left_member).holds here first_found) first_ne)
    (ColumnType.suits_of_holds ((typed right_member).holds here second_found) second_ne)
    clear first_order second_order
  exact differ ⟨first, second, first_found, second_found, first_ne, second_ne,
    congrArg Value.literal same⟩

/-- The check for distinct values accepts rows when no two cells of a column that must have distinct
values repeat a value or are moments of one second.  It tells whether two cells are equal just when
a value is repeated, or there are both the two zeros and moments of one second, or neither.  Behind
every history at most one row of a table is found by the value of a key, unless the type of the key
blurs the value. -/
theorem unique_up_to_zeros_and_seconds (relation : Relation) (rows : List Row)
    (typed : ∀ row ∈ rows, relation.Typed row) :
    (relation.checkUnique rows = .ok () ↔
      ¬ relation.HasPair rows Value.Repeats ∧ ¬ relation.HasPair rows Value.ShareSecond) ∧
    ((relation.checkUnique rows = .ok () ↔ ¬ relation.HasPair rows Value.Equal) ↔
      relation.HasPair rows Value.Repeats ∨
        (relation.HasPair rows Value.OppositeZeros ↔ relation.HasPair rows Value.ShareSecond)) ∧
    ∀ (history : List (Timestamp × Call)) (name : String) (table : Relation),
      (Database.empty.calls history).find? name = some table →
        ∀ (column : Column) (place : Nat) (operand : Value) (marked : List (Row × Bool)),
          table.columns[place]? = some column → column.isUnique = true →
            ¬ column.type.Blurs operand →
            (Predicate.compare place .equal operand).mark table.rows = .ok marked →
            marked.countP (·.2) ≤ 1 := by
  have accepted := Typed.checkUnique_eq_ok typed
  have equal : relation.HasPair rows Value.Equal ↔
      relation.HasPair rows Value.Repeats ∨ relation.HasPair rows Value.OppositeZeros :=
    hasPair_or typed fun _ _ => Value.equal_iff_repeats
  refine ⟨accepted, ?_, ?_⟩
  · rw [accepted, equal]
    tauto
  · intro history name table found column place operand marked here unique clear marks
    have sound : table.Sound := (Database.sound_empty.calls history name table found).2
    exact sound.countP_le_one_of_key here unique clear marks

/-- A table with one column, which must have distinct values. -/
def keyed (type : ColumnType) : Relation where
  name := "t"
  columns := [{ name := "x", type, unique := true }]

theorem hasPair_keyed {type : ColumnType} {first second : Value} {related : Value → Value → Prop} :
    (keyed type).HasPair [[first], [second]] related ↔ related first second := by
  constructor
  · rintro ⟨_, left_cell, right_cell, ⟨column, place, left, right, here, -, -, both, left_found,
      right_found⟩, holds⟩
    obtain ⟨rfl, rfl⟩ : left = [first] ∧ right = [second] := by simpa using both.eq_of_length rfl
    cases place with
    | zero =>
        obtain rfl := Option.some.inj left_found
        obtain rfl := Option.some.inj right_found
        exact holds
    | succ place => simp [keyed] at here
  · intro holds
    exact ⟨type, first, second, ⟨_, 0, _, _, rfl, rfl, rfl, .refl _, rfl, rfl⟩, holds⟩

/-- A moment in the first second of a year. -/
def newYear (milliseconds : Fin 1000) : Value :=
  .timestamp ⟨⟨2024, 1, 1, by decide⟩, ⟨0, 0, 0, milliseconds * 1000000, by
    have := milliseconds.isLt
    exact ⟨by decide, by decide, by decide, .inl (by omega)⟩⟩⟩

/-- Two moments of one second are refused, although no two cells are equal. -/
theorem moments_refused :
    (∀ row ∈ [[newYear 250], [newYear 750]], (keyed .timestamp).Typed row) ∧
      (keyed .timestamp).checkUnique [[newYear 250], [newYear 750]] ≠ .ok () ∧
      ¬ (keyed .timestamp).HasPair [[newYear 250], [newYear 750]] Value.Equal := by
  have typed : ∀ row ∈ [[newYear 250], [newYear 750]], (keyed .timestamp).Typed row := by
    simp [Typed, keyed, newYear, ColumnType.Holds, ColumnType.coerce]
  refine ⟨typed, fun accepted => ?_, ?_⟩
  · refine ((unique_up_to_zeros_and_seconds _ _ typed).1.mp accepted).2 (hasPair_keyed.mpr ?_)
    exact ⟨_, _, rfl, rfl, by decide, by decide⟩
  · rw [hasPair_keyed, Value.equal_iff]
    exact fun equal => absurd equal.2.2 (by decide)

/-- The two zeros are accepted, although they are equal cells. -/
theorem zeros_accepted :
    let zero := Value.real (.signed false (Binary64.Rank.ofNat 0))
    let minusZero := Value.real (.signed true (Binary64.Rank.ofNat 0))
    (∀ row ∈ [[zero], [minusZero]], (keyed .real).Typed row) ∧
      (keyed .real).checkUnique [[zero], [minusZero]] = .ok () ∧
      (keyed .real).HasPair [[zero], [minusZero]] Value.Equal := by
  refine ⟨?_, by decide, hasPair_keyed.mpr rfl⟩
  simp [Typed, keyed, ColumnType.Holds, ColumnType.coerce]

end Relation
end SqlEngine
