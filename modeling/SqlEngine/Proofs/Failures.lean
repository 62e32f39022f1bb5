import SqlEngine.Execution.Run
import SqlEngine.Proofs.Checked

/-!
# What can go wrong with values and rows

Conversions, cells, numberings and tables fail with a few kinds of errors only, whatever statement
they are used by.  So nothing else has to be asked of a set of errors in which a computation stays
than that these kinds are in it.
-/

namespace SqlEngine

/-- Whether an error can come of values, rows and tables alone. -/
@[simp]
def Error.IsPlain : Error → Prop
  | shape (.unknownColumn _ _) | shape (.duplicateColumn _) | shape (.listedTwice _)
  | shape (.notInteger _) | notFound _ | alreadyExists _ | columnCountMismatch | typeMismatch
  | constraint (.tooLong _) | constraint .exhausted | constraint (.duplicate _ _)
  | constraint (.nullCell _) | unsupported (.columnType _) | noCell _ => True
  | _ => False

/-- Sets of errors that have all those in them that can come of values, rows and tables. -/
class Error.Allows (allowed : Error → Prop) : Prop where
  /-- All of them are in it. -/
  plain : ∀ error : Error, error.IsPlain → allowed error

instance : Error.Allows Error.IsPlain :=
  ⟨fun _ plain => plain⟩

open Checked

variable {allowed : Error → Prop} [Error.Allows allowed]

theorem Error.raises_of_plain {α : Type} {outcome : Except Error α}
    (plain : Raises IsPlain outcome) : Raises allowed outcome :=
  fun error failed => Allows.plain error (plain error failed)

/-! ## Values and columns -/

namespace ColumnType

@[simp]
theorem raises_coerce (type : ColumnType) (value : Value) :
    Raises allowed (type.coerce value) := by
  refine Error.raises_of_plain ?_
  unfold coerce
  repeat' split
  all_goals simp

@[simp]
theorem raises_ofName (name : String) (length : Option Nat) :
    Raises allowed (ofName name length) := by
  refine Error.raises_of_plain ?_
  simp only [ofName]
  split <;> simp

end ColumnType

namespace Column

@[simp]
theorem raises_checkNull (column : Column) (value : Value) :
    Raises allowed (column.checkNull value) := by
  refine Error.raises_of_plain ?_
  unfold checkNull
  split <;> simp

@[simp]
theorem raises_checkNumbering (column : Column) : Raises allowed column.checkNumbering := by
  refine Error.raises_of_plain ?_
  unfold checkNumbering
  split <;> simp

end Column

/-! ## Rows -/

namespace Row

@[simp]
theorem raises_cell (row : Row) (place : Nat) : Raises allowed (row.cell place) := by
  refine Error.raises_of_plain ?_
  unfold cell
  split <;> simp

@[simp]
theorem raises_put (row : Row) (place : Nat) (value : Value) :
    Raises allowed (row.put place value) := by
  refine Error.raises_of_plain ?_
  unfold put
  split <;> simp

end Row

namespace Numbering

@[simp]
theorem raises_note (numbering : Numbering) (value : Value) :
    Raises allowed (numbering.note value) := by
  refine Error.raises_of_plain ?_
  unfold note
  split
  · unfold advance
    split <;> simp
  · simp

@[simp]
theorem raises_row (numbering : Numbering) (entries : List (Column × Option Value)) :
    Raises allowed (numbering.row entries) := by
  have cell (numbering : Numbering) (column : Column) (given : Option Value) :
      Raises allowed (numbering.cell column given) := by
    unfold Numbering.cell
    repeat' split
    all_goals simp
  induction entries generalizing numbering with
  | nil => simp [row]
  | cons entry entries induction =>
      obtain ⟨column, given⟩ := entry
      simp [row, cell, induction]

end Numbering

/-! ## Tables -/

namespace Database

@[simp]
theorem raises_relation (database : Database) (name : String) :
    Raises allowed (database.relation name) := by
  refine Error.raises_of_plain ?_
  unfold Database.relation
  split <;> simp

@[simp]
theorem raises_create (database : Database) (relation : Relation) :
    Raises allowed (database.create relation) := by
  refine Error.raises_of_plain ?_
  unfold Database.create
  split <;> simp

@[simp]
theorem raises_drop (database : Database) (name : String) :
    Raises allowed (database.drop name) := by
  simp [Database.drop]

end Database

namespace Relation

@[simp]
theorem raises_column (relation : Relation) (name : String) :
    Raises allowed (relation.column name) := by
  refine Error.raises_of_plain ?_
  unfold Relation.column
  split <;> simp

@[simp]
theorem raises_targets (relation : Relation) (names : List Tree) :
    Raises allowed (relation.targets names) := by
  refine Error.raises_of_plain ?_
  have named (names : List Tree) (seen : List Nat) :
      Raises Error.IsPlain (targets.named relation seen names) := by
    induction names generalizing seen with
    | nil => simp [targets.named]
    | cons name names induction =>
        simp only [targets.named, Raises.bind_iff, raises_column, true_and]
        intro target _
        split <;> simp [induction]
  unfold targets
  split
  · simp
  · exact named names []

@[simp]
theorem raises_checkUnique (relation : Relation) (rows : List Row) :
    Raises allowed (relation.checkUnique rows) := by
  refine Error.raises_of_plain ?_
  have distinct (column : Column) (place : Nat) (rows : List Row) (seen : List String) :
      Raises Error.IsPlain (checkDistinct column place seen rows) := by
    induction rows generalizing seen with
    | nil => simp [checkDistinct]
    | cons row rows induction =>
        simp only [checkDistinct, Raises.bind_iff, Row.raises_cell, true_and]
        intro value _
        repeat' split
        all_goals simp [induction]
  refine Raises.forM ?_
  rintro ⟨column, place⟩ _
  dsimp only
  split <;> simp [distinct]

@[simp]
theorem raises_insertAll (relation : Relation) (rows : List Row) :
    Raises allowed (relation.insertAll rows) := by
  refine Error.raises_of_plain ?_
  simp only [Relation.insertAll]
  split <;> simp

@[simp]
theorem raises_replaceRows (relation : Relation) (rows : List Row) :
    Raises allowed (relation.replaceRows rows) := by
  simp [Relation.replaceRows]

@[simp]
theorem raises_assign (changes : List (Column × Nat × Value)) (row : Row) :
    Raises allowed (assign changes row) :=
  Raises.foldlM (fun _ _ _ => by simp) row

@[simp]
theorem raises_noteChanges (numbering : Numbering) (changes : List (Column × Nat × Value)) :
    Raises allowed (noteChanges numbering changes) := by
  refine Raises.foldlM ?_ numbering
  rintro ⟨column, place, value⟩ _ numbering
  dsimp only
  split <;> simp

end Relation

/-! ## Predicates -/

namespace Predicate

/-- The operands of a condition are among its children. -/
theorem mem_of_subject {relation : Relation} {lexeme : String} {children : List Tree}
    {subjected : (Column × Nat) × List Tree}
    (done : subject relation lexeme children = .ok subjected) {operand : Tree}
    (member : operand ∈ subjected.2) : operand ∈ children := by
  unfold subject at done
  split at done
  · simp only [bind_eq_ok, pure_eq_ok] at done
    obtain ⟨_, -, rfl⟩ := done
    exact List.mem_cons_of_mem _ member
  · contradiction

omit [Error.Allows allowed] in
theorem raises_ofTrees {now : Timestamp} {relation : Relation} {trees : List Tree}
    (each : ∀ tree ∈ trees, Raises allowed (ofTree now relation tree)) :
    Raises allowed (ofTrees now relation trees) := by
  induction trees with
  | nil => simp [ofTrees]
  | cons tree trees induction =>
      obtain ⟨first, others⟩ := List.forall_mem_cons.mp each
      simp [ofTrees, first, induction others]

@[simp]
theorem raises_comparesWith (comparison : Comparison) (cell value : Value) :
    Raises allowed (comparesWith comparison cell value) := by
  refine Error.raises_of_plain ?_
  unfold comparesWith
  repeat' split
  all_goals simp

@[simp]
theorem raises_isLike (pattern : List Char) (cell : Value) :
    Raises allowed (isLike pattern cell) := by
  refine Error.raises_of_plain ?_
  unfold isLike
  split <;> simp

mutual

theorem plain_holds (row : Row) (predicate : Predicate) :
    Raises Error.IsPlain (predicate.holds row) := by
  cases predicate with
  | all conditions => exact plain_allHold row conditions
  | any conditions => exact plain_anyHolds row conditions
  | compare place comparison value => simp [holds]
  | like place pattern => simp [holds]
  | isIn place values => simp [holds]
  | isNull place => simp [holds]
  | isNotNull place => simp [holds]

theorem plain_allHold (row : Row) (conditions : List Predicate) :
    Raises Error.IsPlain (allHold row conditions) := by
  cases conditions with
  | nil => simp [allHold]
  | cons condition conditions =>
      simp only [allHold, Raises.bind_iff, plain_holds row condition, true_and]
      intro met _
      split
      · exact plain_allHold row conditions
      · simp

theorem plain_anyHolds (row : Row) (conditions : List Predicate) :
    Raises Error.IsPlain (anyHolds row conditions) := by
  cases conditions with
  | nil => simp [anyHolds]
  | cons condition conditions =>
      simp only [anyHolds, Raises.bind_iff, plain_holds row condition, true_and]
      intro met _
      split
      · simp
      · exact plain_anyHolds row conditions

end

@[simp]
theorem raises_holds (row : Row) (predicate : Predicate) :
    Raises allowed (predicate.holds row) :=
  Error.raises_of_plain (plain_holds row predicate)

@[simp]
theorem raises_mark (predicate : Predicate) (rows : List Row) :
    Raises allowed (predicate.mark rows) :=
  Raises.mapM fun row _ => by simp

end Predicate

/-! ## Runs -/

namespace Database

variable {now : Timestamp} {database : Database} {error : Error}

/-- A run fails with the error of one of its statements. -/
theorem exists_of_runAll {trees : List Tree}
    (failed : (database.runAll now trees).failure = some error) :
    ∃ tree ∈ trees, ∃ before : Database, before.execute now tree = .error error := by
  induction trees generalizing database with
  | nil => contradiction
  | cons tree trees induction =>
      simp only [runAll] at failed
      split at failed
      · obtain rfl := Option.some.inj failed
        exact ⟨tree, List.mem_cons_self, database, ‹_›⟩
      · obtain ⟨found, member, before⟩ := induction failed
        exact ⟨found, List.mem_cons_of_mem tree member, before⟩

/-- Several scripts fail with the error of one of them. -/
theorem exists_of_runEach {texts : List String}
    (failed : (database.runEach now texts).failure = some error) :
    ∃ text ∈ texts, ∃ before : Database, (before.run now text).failure = some error := by
  induction texts generalizing database with
  | nil => contradiction
  | cons text texts induction =>
      simp only [runEach] at failed
      split at failed
      · exact ⟨text, List.mem_cons_self, database, failed⟩
      · obtain ⟨found, member, before⟩ := induction failed
        exact ⟨found, List.mem_cons_of_mem text member, before⟩

end Database
end SqlEngine
