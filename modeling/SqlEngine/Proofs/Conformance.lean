import SqlEngine.Database
import SqlEngine.Proofs.Typing

/-!
# Conformance

A table conforms to its schema when its columns make sense, every row has a cell for each column
that the column admits, and no column that must have distinct values has one twice.  A database
conforms when each of its tables does and stands under its own name.
-/

namespace SqlEngine

theorem Value.isNull_iff {value : Value} : value.isNull = true ↔ value = .null := by
  cases value <;> simp [isNull]

namespace Column

/-- Whether a column makes sense: one that numbers its rows holds integers, and a default is held by
the type. -/
structure Sound (column : Column) : Prop where
  /-- A column that numbers its rows holds integers. -/
  whole : column.autoincrement = true → column.type = .integer ∨ column.type = .serial
  /-- The default is held by the type. -/
  default_held : ∀ value, column.default = some value → column.type.Holds value

/-- Whether a value may stand in a cell of a column. -/
def Admits (column : Column) (value : Value) : Prop :=
  column.type.Holds value ∧ (column.isNotNull = true → value ≠ .null)

theorem checkNull_eq_ok {column : Column} {value : Value} :
    column.checkNull value = .ok () ↔ (column.isNotNull = true → value ≠ .null) := by
  unfold checkNull
  cases value <;> cases column.isNotNull <;> simp [Value.isNull]

end Column

theorem Tree.require_eq_ok {α : Type} {part : Option α} {fault : TreeFault} {value : α} :
    Tree.require part fault = .ok value ↔ part = some value := by
  unfold Tree.require
  cases part <;> simp

theorem Tree.onlyChild?_eq_some {tree child : Tree} :
    tree.onlyChild? = some child ↔ tree.children = [child] := by
  unfold onlyChild?
  split
  · simp [*]
  · rename_i other
    simpa using other child

theorem Tree.mem_of_onlyChild? {tree child : Tree} (only : tree.onlyChild? = some child) :
    child ∈ tree.children :=
  onlyChild?_eq_some.mp only ▸ List.mem_cons_self

namespace Row

/-- Whether two rows have the same value in a place, as far as literals tell; nulls are never the
same. -/
def Clash (place : Nat) (left right : Row) : Prop :=
  ∃ first second, left[place]? = some first ∧ right[place]? = some second ∧
    first ≠ .null ∧ second ≠ .null ∧ first.literal = second.literal

theorem cell_eq_ok {row : Row} {place : Nat} {value : Value} :
    row.cell place = .ok value ↔ row[place]? = some value := by
  unfold cell
  cases row[place]? <;> simp

theorem put_eq_ok {row after : Row} {place : Nat} {value : Value} :
    row.put place value = .ok after ↔ place < row.length ∧ row.set place value = after := by
  unfold put
  split
  · rename_i inside
    simp [inside]
  · rename_i outside
    simp [outside]

end Row

private theorem not_clash_of_null {place : Nat} {row other : Row}
    (null : row[place]? = some .null) : ¬ Row.Clash place row other := by
  rintro ⟨first, _, found, -, first_ne, -⟩
  rw [null] at found
  exact first_ne (Option.some.inj found).symm

/-- Rows pass when each has a cell in the place, no cell has a literal seen before, and no two rows
clash. -/
theorem checkDistinct_eq_ok {column : Column} {place : Nat} {seen : List String} {rows : List Row} :
    checkDistinct column place seen rows = .ok () ↔
      (∀ row ∈ rows, ∃ value, row[place]? = some value ∧
        (value ≠ .null → value.literal ∉ seen)) ∧
      rows.Pairwise fun left right => ¬ Row.Clash place left right := by
  induction rows generalizing seen with
  | nil => simp [checkDistinct]
  | cons row rows induction =>
      simp only [checkDistinct, Checked.bind_eq_ok, Row.cell_eq_ok, List.forall_mem_cons,
        List.pairwise_cons]
      constructor
      · rintro ⟨value, found, rest⟩
        by_cases null : value = .null
        · subst null
          obtain ⟨cells, apart⟩ := induction.mp rest
          exact ⟨⟨⟨.null, found, fun absent => absurd rfl absent⟩, cells⟩,
            fun _ _ => not_clash_of_null found, apart⟩
        · rw [if_neg (by simpa [Value.isNull_iff] using null)] at rest
          split at rest
          · contradiction
          · rename_i fresh
            obtain ⟨cells, apart⟩ := induction.mp rest
            refine ⟨⟨⟨value, found, fun _ => by simpa using fresh⟩, ?_⟩, ?_, apart⟩
            · intro other member
              obtain ⟨second, there, new⟩ := cells other member
              exact ⟨second, there, fun second_ne seen =>
                new second_ne (List.mem_cons_of_mem _ seen)⟩
            · rintro other member ⟨first, second, here, there, -, second_ne, same⟩
              obtain rfl : value = first := Option.some.inj (found.symm.trans here)
              obtain ⟨third, also, new⟩ := cells other member
              obtain rfl : second = third := Option.some.inj (there.symm.trans also)
              exact new second_ne (by simp [same])
      · rintro ⟨⟨⟨value, found, fresh⟩, cells⟩, clear, apart⟩
        refine ⟨value, found, ?_⟩
        by_cases null : value = .null
        · subst null
          exact induction.mpr ⟨cells, apart⟩
        · rw [if_neg (by simpa [Value.isNull_iff] using null),
            if_neg (by simpa using fresh null)]
          refine induction.mpr ⟨?_, apart⟩
          intro other member
          obtain ⟨second, there, new⟩ := cells other member
          refine ⟨second, there, fun second_ne again => ?_⟩
          rcases List.mem_cons.mp again with same | seen
          · exact clear other member
              ⟨value, second, found, there, null, second_ne, same.symm⟩
          · exact new second_ne seen

namespace Relation

/-- Whether no two of several rows clash in a column that must have distinct values. -/
def DistinctKeys (relation : Relation) (rows : List Row) : Prop :=
  ∀ column place, relation.columns[place]? = some column → column.isUnique = true →
    rows.Pairwise fun left right => ¬ Row.Clash place left right

/-- Whether a row has a cell for each column that the column admits. -/
def Fits (relation : Relation) (row : Row) : Prop :=
  List.Forall₂ Column.Admits relation.columns row

/-- Whether a table conforms to its schema. -/
structure Sound (relation : Relation) : Prop where
  /-- There is a column. -/
  columns_ne_nil : relation.columns ≠ []
  /-- The columns have distinct names. -/
  names_nodup : relation.columnNames.Nodup
  /-- The columns make sense. -/
  columns_sound : ∀ column ∈ relation.columns, column.Sound
  /-- The rows have the cells that the columns ask for. -/
  rows_fit : ∀ row ∈ relation.rows, relation.Fits row
  /-- Columns that must have distinct values have them. -/
  keys_distinct : relation.DistinctKeys relation.rows

theorem checkUnique_eq_ok {relation : Relation} {rows : List Row}
    (wide : ∀ row ∈ rows, row.length = relation.columns.length) :
    relation.checkUnique rows = .ok () ↔ relation.DistinctKeys rows := by
  simp only [checkUnique, Checked.forM_eq_ok, Prod.forall, List.mk_mem_zipIdx_iff_getElem?]
  refine forall_congr' fun column => forall_congr' fun place => forall_congr' fun found => ?_
  by_cases unique : column.isUnique = true
  · rw [if_pos unique, checkDistinct_eq_ok]
    have cells : ∀ row ∈ rows, ∃ value, row[place]? = some value ∧
        (value ≠ .null → value.literal ∉ ([] : List String)) := by
      intro row member
      have inside : place < row.length :=
        (wide row member) ▸ (List.getElem?_eq_some_iff.mp found).1
      exact ⟨row[place], List.getElem?_eq_getElem inside, fun _ => List.not_mem_nil⟩
    exact ⟨fun passed _ => passed.2, fun apart => ⟨cells, apart unique⟩⟩
  · simp [unique]

theorem insertAll_eq_ok {relation after : Relation} {rows : List Row} :
    relation.insertAll rows = .ok after ↔
      (∀ row ∈ rows, row.length = relation.columns.length) ∧
      relation.checkUnique (relation.rows ++ rows) = .ok () ∧
      after = { relation with rows := relation.rows ++ rows } := by
  simp only [insertAll]
  split
  · rename_i narrow
    simp only [Checked.bind_eq_ok, reduceCtorEq, false_and, exists_false, false_iff]
    rintro ⟨wide, -⟩
    simp only [List.any_eq_true, bne_iff_ne] at narrow
    obtain ⟨row, member, other⟩ := narrow
    exact other (wide row member)
  · rename_i wide
    simp only [Checked.bind_eq_ok, Checked.pure_eq_ok]
    constructor
    · rintro ⟨_, passed, rfl⟩
      exact ⟨by simpa using wide, passed, rfl⟩
    · rintro ⟨-, passed, rfl⟩
      exact ⟨(), passed, rfl⟩

theorem replaceRows_eq_ok {relation after : Relation} {rows : List Row} :
    relation.replaceRows rows = .ok after ↔
      relation.checkUnique rows = .ok () ∧ after = { relation with rows } := by
  simp only [replaceRows, Checked.bind_eq_ok, Checked.pure_eq_ok]
  constructor
  · rintro ⟨_, passed, rfl⟩
    exact ⟨passed, rfl⟩
  · rintro ⟨passed, rfl⟩
    exact ⟨(), passed, rfl⟩

/-- Other rows that fit do no harm to the columns, and neither does another numbering. -/
theorem Sound.withRows {relation : Relation} (sound : relation.Sound) {rows : List Row}
    (fit : ∀ row ∈ rows, relation.Fits row) (apart : relation.DistinctKeys rows)
    (sequence : Int64) :
    Sound { relation with rows, sequence } where
  columns_ne_nil := sound.columns_ne_nil
  names_nodup := sound.names_nodup
  columns_sound := sound.columns_sound
  rows_fit := fit
  keys_distinct := apart

theorem Fits.length_eq {relation : Relation} {row : Row} (fits : relation.Fits row) :
    row.length = relation.columns.length :=
  (List.Forall₂.length_eq fits).symm

theorem Fits.admits {relation : Relation} {row : Row} (fits : relation.Fits row) {column : Column}
    {place : Nat} {value : Value} (here : relation.columns[place]? = some column)
    (there : row[place]? = some value) : column.Admits value :=
  Checked.related_of_getElem? fits here there

end Relation

namespace Database

/-- Whether every table conforms to its schema and stands under its own name. -/
def Sound (database : Database) : Prop :=
  ∀ name relation, database.find? name = some relation → relation.name = name ∧ relation.Sound

@[simp]
theorem find?_empty (name : String) : empty.find? name = none := by
  simp [find?, empty]

theorem find?_put (database : Database) (relation : Relation) (name : String) :
    (database.put relation).find? name =
      if relation.name = name then some relation else database.find? name := by
  simp [find?, put, Std.ExtTreeMap.getElem?_insert]

theorem find?_erase (database : Database) (erased name : String) :
    find? ⟨database.relations.erase erased⟩ name =
      if erased = name then none else database.find? name := by
  simp [find?, Std.ExtTreeMap.getElem?_erase]

theorem relation_eq_ok {database : Database} {name : String} {relation : Relation} :
    database.relation name = .ok relation ↔ database.find? name = some relation := by
  unfold Database.relation
  cases database.find? name <;> simp

theorem contains_eq_isSome (database : Database) (name : String) :
    database.contains name = (database.find? name).isSome := by
  simp [contains, find?, Std.ExtTreeMap.isSome_getElem?_eq_contains]

theorem create_eq_ok {database after : Database} {relation : Relation} :
    database.create relation = .ok after ↔
      database.find? relation.name = none ∧ after = database.put relation := by
  unfold create
  rw [contains_eq_isSome]
  cases database.find? relation.name <;> simp [eq_comm]

theorem drop_eq_ok {database after : Database} {name : String} {relation : Relation} :
    database.drop name = .ok (relation, after) ↔
      database.find? name = some relation ∧ after = ⟨database.relations.erase name⟩ := by
  simp only [drop, Checked.bind_eq_ok, Checked.pure_eq_ok, relation_eq_ok, Prod.mk.injEq]
  constructor
  · rintro ⟨_, found, rfl, rfl⟩
    exact ⟨found, rfl⟩
  · rintro ⟨found, rfl⟩
    exact ⟨relation, found, rfl, rfl⟩

theorem sound_empty : empty.Sound := by
  intro name relation found
  simp at found

theorem Sound.put {database : Database} (sound : database.Sound) {relation : Relation}
    (conforms : relation.Sound) : (database.put relation).Sound := by
  intro name found there
  rw [find?_put] at there
  split at there
  · obtain rfl := Option.some.inj there
    exact ⟨‹_›, conforms⟩
  · exact sound name found there

theorem Sound.erase {database : Database} (sound : database.Sound) (erased : String) :
    Sound ⟨database.relations.erase erased⟩ := by
  intro name found there
  rw [find?_erase] at there
  split at there
  · contradiction
  · exact sound name found there

end Database
end SqlEngine
