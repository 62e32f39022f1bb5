import SqlEngine.Proofs.Conformance
import SqlEngine.Proofs.Failures
import SqlEngine.Proofs.Numerals
import SqlEngine.Proofs.Reals
import SqlEngine.Proofs.Spellings

/-!
# Numbers out of range

The grammar does not ask how large a number is.  So a statement that was read may still be refused
for its text when it is run, but only for an integer that does not fit into 64 bits, or for a length
of a type that does not.
-/

namespace SqlEngine

/-! ## Values of numbers -/

namespace Wording

/-- The integer that a sign and digits stand for. -/
def signedValue (minus : Bool) (digits : Digits) : Int :=
  if minus then -(Numeral.value digits.chars : Int) else Numeral.value digits.chars

theorem Digits.natural?_eq (digits : Digits) :
    Numeral.natural? digits.chars = some (Numeral.value digits.chars) := by
  have nonempty : digits.chars.isEmpty = false := List.isEmpty_eq_false_iff.mpr digits.nonempty
  have all : digits.chars.all Char.isDigit = true := List.all_eq_true.mpr digits.digits
  rw [Numeral.natural?, nonempty, all]
  rfl

theorem Digits.unsigned?_eq_none (digits : Digits) :
    Numeral.unsigned? digits.chars = none ↔ 2 ^ 64 ≤ Numeral.value digits.chars := by
  obtain ⟨c, others, split⟩ := List.exists_cons_of_ne_nil digits.nonempty
  have digit : c.isDigit = true := digits.digits c (split ▸ List.mem_cons_self)
  have read := digits.natural?_eq
  rw [split] at read ⊢
  unfold Numeral.unsigned?
  split
  · rename_i same
    rw [(List.cons.inj same).1] at digit
    contradiction
  · rw [read]
    simp

theorem integer?_of_sign (minus : Bool) (digits : Digits) :
    Numeral.integer? ((if minus then ['-'] else []) ++ digits.chars) =
      Numeral.bounded? (signedValue minus digits) := by
  cases minus with
  | true => exact Numeral.integer?_of_minus digits.natural?_eq
  | false =>
      obtain ⟨c, others, split⟩ := List.exists_cons_of_ne_nil digits.nonempty
      have read := digits.natural?_eq
      rw [signedValue, if_neg Bool.false_ne_true, if_neg Bool.false_ne_true, List.nil_append]
      rw [split] at read ⊢
      exact Numeral.integer?_of_digit (digits.digits c (split ▸ List.mem_cons_self)) read

theorem bounded?_eq_none {number : Int} :
    Numeral.bounded? number = none ↔ ¬ (-2 ^ 63 ≤ number ∧ number < 2 ^ 63) := by
  unfold Numeral.bounded?
  split
  · rename_i inside
    simp only [Bool.and_eq_true, decide_eq_true_eq] at inside
    simp only [reduceCtorEq, false_iff, not_not]
    omega
  · rename_i outside
    simp only [Bool.and_eq_true, decide_eq_true_eq] at outside
    simp only [true_iff]
    omega

theorem Digits.no_point (digits : Digits) : '.' ∉ digits.chars := by
  intro member
  exact absurd (digits.digits '.' member) (by decide)

/-- A number has a value, or is an integer out of range. -/
theorem numberValue_of_number (written : Number) :
    (∃ value, Tree.numberValue (String.ofList written.chars) = .ok value) ∨
      Tree.numberValue (String.ofList written.chars) =
          .error (.parse (.number (String.ofList written.chars))) ∧
        written.fraction = none ∧
        ¬ (-2 ^ 63 ≤ signedValue written.minus written.whole ∧
          signedValue written.minus written.whole < 2 ^ 63) := by
  obtain ⟨minus, whole, fraction⟩ := written
  cases fraction with
  | some places =>
      have point : (Number.chars ⟨minus, whole, some places⟩).contains '.' = true := by
        simp [Number.chars]
      have read := Binary64.ofText?_of_point minus whole.digits whole.nonempty places.digits
      left
      simp only [Tree.numberValue, String.toList_ofList, point, if_true]
      rw [Number.chars, List.append_assoc]
      simp only [Option.elim_some, read]
      exact ⟨_, rfl⟩
  | none =>
      have chars : Number.chars ⟨minus, whole, none⟩ =
          (if minus then ['-'] else []) ++ whole.chars := by
        simp [Number.chars]
      have no_point : (Number.chars ⟨minus, whole, none⟩).contains '.' = false := by
        rw [chars]
        cases minus <;> simp [whole.no_point]
      simp only [Tree.numberValue, String.toList_ofList, no_point, Bool.false_eq_true, if_false]
      rw [chars, integer?_of_sign]
      cases bounded : Numeral.bounded? (signedValue minus whole) with
      | some number => exact .inl ⟨.integer number, rfl⟩
      | none => exact .inr ⟨rfl, trivial, bounded?_eq_none.mp bounded⟩

end Wording

/-- Whether a tree has a number in it that is out of range, and what is said of it. -/
inductive Tree.Overflows : Tree → ParseFault → Prop where
  /-- An integer does not fit into 64 bits. -/
  | number {minus : Bool} {whole : Wording.Digits}
      (far : ¬ (-2 ^ 63 ≤ Wording.signedValue minus whole ∧
        Wording.signedValue minus whole < 2 ^ 63)) :
      Overflows ⟨.number, String.ofList (Wording.Number.chars ⟨minus, whole, none⟩), []⟩
        (.number (String.ofList (Wording.Number.chars ⟨minus, whole, none⟩)))
  /-- The length of the type of a column does not. -/
  | length (name type : String) {length : Wording.Digits}
      (far : 2 ^ 64 ≤ Numeral.value length.chars) (constraints : List Tree) :
      Overflows ⟨.columnDef, name,
          ⟨.typeName, type, [⟨.number, String.ofList length.chars, []⟩]⟩ :: constraints⟩
        (.typeLength (String.ofList length.chars))
  /-- A node below has such a number in it. -/
  | inside {token : Token} (other : token ≠ .typeName) (lexeme : String) {children : List Tree}
      {child : Tree} (member : child ∈ children) {fault : ParseFault}
      (overflows : child.Overflows fault) : Overflows ⟨token, lexeme, children⟩ fault

/-- Whether an error comes of values, rows and tables, or of the form of a tree, or is one of given
faults of a text. -/
@[simp]
def Error.IsSettled (faults : ParseFault → Prop) : Error → Prop
  | parse fault => faults fault
  | shape (.tree _) => True
  | error => error.IsPlain

instance (faults : ParseFault → Prop) : Error.Allows (Error.IsSettled faults) where
  plain error plain := by
    cases error with
    | shape fault => cases fault <;> simp_all
    | _ => simp_all

theorem Error.IsSettled.mono {faults others : ParseFault → Prop} {error : Error}
    (settled : error.IsSettled faults) (weaker : ∀ fault, faults fault → others fault) :
    error.IsSettled others := by
  cases error with
  | parse fault => exact weaker fault settled
  | shape fault => cases fault <;> simp_all
  | _ => simp_all

/-- Whether a computation only fails with errors that have nothing to do with the text of a
statement, or with given faults of the text. -/
abbrev Settled {α : Type} (faults : ParseFault → Prop) (outcome : Except Error α) : Prop :=
  Checked.Raises (Error.IsSettled faults) outcome

/-- Trees of which every part, taken alone, is refused for given faults of the text only. -/
inductive Tree.Reports (faults : ParseFault → Prop) : Tree → Prop where
  /-- A number. -/
  | number {lexeme : String} (value : Settled faults (Tree.numberValue lexeme)) :
      Reports faults ⟨.number, lexeme, []⟩
  /-- A column with its type. -/
  | column (name : String) {type : String} {length : List Tree}
      (known : Settled faults (Column.typeOfTree ⟨.typeName, type, length⟩))
      {constraints : List Tree} (below : ∀ constraint ∈ constraints, constraint.Reports faults) :
      Reports faults ⟨.columnDef, name, ⟨.typeName, type, length⟩ :: constraints⟩
  /-- Any other node. -/
  | node {token : Token} (other : token ∉ numeralTokens) (lexeme : String) {children : List Tree}
      (below : ∀ child ∈ children, child.Reports faults) :
      Reports faults ⟨token, lexeme, children⟩

open Checked

variable {faults : ParseFault → Prop} {tree child : Tree} {now : Timestamp}

/-! ## Parts of trees -/

namespace Tree

/-- A tree that was read reports the numbers that are out of range in it. -/
theorem Spelled.reports (spelled : tree.Spelled)
    (all : ∀ fault, tree.Overflows fault → faults fault) : tree.Reports faults := by
  induction spelled with
  | number written =>
      refine .number ?_
      rcases Wording.numberValue_of_number written with ⟨value, read⟩ | ⟨refused, whole, far⟩
      · simp [read]
      · obtain ⟨minus, digits, fraction⟩ := written
        obtain rfl : fraction = none := whole
        simpa [refused] using all _ (.number far)
  | column name type length _ induction =>
      refine .column name ?_ fun constraint member => induction constraint member fun fault found =>
        all fault (.inside (by decide) name (List.mem_cons_of_mem _ member) found)
      cases length with
      | none => exact ColumnType.raises_ofName type none
      | some written =>
          simp only [Option.map_some, Option.toList_some, Column.typeOfTree, String.toList_ofList]
          split
          · exact ColumnType.raises_ofName type _
          · rename_i refused
            exact Raises.error_iff.mpr
              (all _ (.length name type (written.unsigned?_eq_none.mp refused) _))
  | @node token other lexeme children _ induction =>
      have no_type : token ≠ .typeName := by
        rintro rfl
        exact other (by decide)
      exact .node other lexeme fun child member => induction child member fun fault found =>
        all fault (.inside no_type lexeme member found)

namespace Reports

variable (reports : tree.Reports faults)

include reports

theorem settled_literalValue : Settled faults (tree.literalValue now) := by
  cases reports with
  | number value => simpa [literalValue] using value
  | column => simp [literalValue]
  | @node token other =>
      unfold literalValue
      split
      case h_6 same =>
        obtain rfl : token = .number := same
        exact absurd (by decide) other
      all_goals simp

theorem settled_typedValue (type : ColumnType) : Settled faults (tree.typedValue now type) := by
  simp [typedValue, reports.settled_literalValue]

theorem of_mem (other : tree.token ≠ .columnDef) (member : child ∈ tree.children) :
    child.Reports faults := by
  cases reports with
  | number => simp at member
  | column => contradiction
  | node _ _ below => exact below child member

/-- Types of columns are no literals. -/
theorem settled_child (member : child ∈ tree.children) :
    Settled faults (child.literalValue now) := by
  by_cases column : tree.token = .columnDef
  · cases reports with
    | number => contradiction
    | column _ _ below =>
        rcases List.mem_cons.mp member with rfl | member
        · simp [literalValue]
        · exact (below child member).settled_literalValue
    | @node token other =>
        obtain rfl : token = .columnDef := column
        exact absurd (by decide) other
  · exact (reports.of_mem column member).settled_literalValue

theorem of_find? (other : tree.token ≠ .columnDef) {wanted : Token}
    (found : tree.find? wanted = some child) : child.Reports faults ∧ child.token = wanted :=
  ⟨reports.of_mem other (List.mem_of_find?_eq_some found), by
    have same := List.find?_some found
    exact beq_iff_eq.mp same⟩

theorem of_onlyChild? (other : tree.token ≠ .columnDef) (only : tree.onlyChild? = some child) :
    child.Reports faults :=
  reports.of_mem other (mem_of_onlyChild? only)

end Reports
end Tree

@[simp]
theorem Tree.settled_require {α : Type} (part : Option α) (fault : TreeFault) :
    Settled faults (require part fault) := by
  unfold require
  split <;> simp

@[simp]
theorem Tree.settled_identifier (node : Option Tree) (of : String) :
    Settled faults (identifier node of) := by
  unfold identifier
  split <;> simp

/-! ## Columns and rows -/

namespace Column

theorem settled_constrain (reports : tree.Reports faults) (column : Column) :
    Settled faults (column.constrain now tree) := by
  unfold constrain
  split
  case h_5 token =>
    simp only [Raises.bind_iff, Tree.settled_require, true_and, Raises.pure, implies_true, and_true]
    intro literal only
    have below := reports.of_onlyChild? (by rw [token]; decide) (Tree.require_eq_ok.mp only)
    exact below.settled_typedValue column.type
  all_goals simp

theorem settled_ofTree (reports : tree.Reports faults) : Settled faults (ofTree now tree) := by
  cases reports with
  | number => simp [ofTree]
  | column name known below =>
      simp [ofTree, known, Raises.foldlM fun tree member => settled_constrain (below tree member)]
  | @node token other =>
      have no_column : token ≠ .columnDef := by
        rintro rfl
        exact other (by decide)
      simp [ofTree, no_column]

theorem settled_listOfTrees {trees : List Tree} (reports : ∀ tree ∈ trees, tree.Reports faults)
    (seen : List String) : Settled faults (listOfTrees now seen trees) := by
  induction trees generalizing seen with
  | nil => simp [listOfTrees]
  | cons tree trees induction =>
      obtain ⟨first, others⟩ := List.forall_mem_cons.mp reports
      simp only [listOfTrees, Raises.bind_iff, settled_ofTree first, true_and]
      intro column _
      split <;> simp [induction others]

end Column

namespace Relation

variable {relation : Relation}

theorem settled_newRows {tuples : List Tree} (reports : ∀ tuple ∈ tuples, tuple.Reports faults)
    (targets : List (Column × Nat)) (numbering : Numbering) :
    Settled faults (relation.newRows now targets numbering tuples) := by
  induction tuples generalizing numbering with
  | nil => simp [newRows]
  | cons tuple tuples induction =>
      obtain ⟨first, others⟩ := List.forall_mem_cons.mp reports
      have given : Settled faults (givenValues now targets tuple.children) := by
        refine Raises.mapM ?_
        rintro ⟨⟨column, place⟩, literal⟩ member
        simp [Tree.typedValue, first.settled_child (List.of_mem_zip member).2]
      simp only [newRows]
      split <;> simp [given, induction others]

theorem settled_assignment (reports : tree.Reports faults) :
    Settled faults (relation.assignment now tree) := by
  unfold assignment
  split
  · rename_i named literal _ split
    simp [Tree.typedValue, reports.settled_child (by simp [split] : literal ∈ tree.children)]
  · simp

end Relation

/-! ## Predicates -/

namespace Predicate

variable {relation : Relation}

theorem settled_subject (lexeme : String) (children : List Tree) :
    Settled faults (subject relation lexeme children) := by
  unfold subject
  split <;> simp

theorem settled_operand (literal : Settled faults (tree.literalValue now)) (column : Column) :
    Settled faults (operand now column tree) := by
  simp only [operand, Raises.bind_iff, literal, true_and]
  intro value _
  split <;> simp

theorem settled_ofComparison {children : List Tree}
    (literals : ∀ child ∈ children, Settled faults (child.literalValue now))
    (comparison : Comparison) (lexeme : String) :
    Settled faults (ofComparison now relation comparison lexeme children) := by
  simp only [ofComparison, Raises.bind_iff, settled_subject, true_and]
  intro subjected done
  split
  · simp
  · rename_i literal others operands
    have inside := mem_of_subject done (operands ▸ List.mem_cons_self)
    simp [settled_operand (literals literal inside)]

theorem settled_ofLike {children : List Tree}
    (literals : ∀ child ∈ children, Settled faults (child.literalValue now)) (lexeme : String) :
    Settled faults (ofLike now relation lexeme children) := by
  simp only [ofLike, Raises.bind_iff, settled_subject, true_and]
  intro subjected done
  split
  · simp
  · rename_i literal others operands
    have inside := mem_of_subject done (operands ▸ List.mem_cons_self)
    simp only [Raises.bind_iff, literals literal inside, true_and]
    intro pattern _
    split <;> simp

theorem settled_ofIn {children : List Tree}
    (literals : ∀ child ∈ children, Settled faults (child.literalValue now)) (lexeme : String) :
    Settled faults (ofIn now relation lexeme children) := by
  simp only [ofIn, Raises.bind_iff, settled_subject, true_and, Raises.pure, implies_true, and_true]
  intro subjected done
  exact Raises.mapM fun literal member =>
    settled_operand (literals literal (mem_of_subject done member)) _

theorem settled_ofNullTest (test : Nat → Predicate) (lexeme : String) (children : List Tree) :
    Settled faults (ofNullTest relation test lexeme children) := by
  simp [ofNullTest, settled_subject]

theorem settled_ofTree (reports : tree.Reports faults) :
    Settled faults (ofTree now relation tree) := by
  induction reports with
  | number => simp [ofTree, Comparison.ofToken?]
  | column => simp [ofTree, Comparison.ofToken?]
  | @node _ _ lexeme children below induction =>
      have literals : ∀ child ∈ children, Settled faults (child.literalValue now) :=
        fun child member => (below child member).settled_literalValue
      unfold ofTree
      split
      · simp [raises_ofTrees induction]
      · simp [raises_ofTrees induction]
      · exact settled_ofNullTest _ lexeme _
      · exact settled_ofNullTest _ lexeme _
      · exact settled_ofIn literals lexeme
      · exact settled_ofLike literals lexeme
      · split
        · exact settled_ofComparison literals _ lexeme
        · simp

theorem settled_ofClause {clause : Option Tree}
    (reports : ∀ tree, clause = some tree → tree.Reports faults ∧ tree.token ≠ .columnDef) :
    Settled faults (ofClause now relation clause) := by
  unfold ofClause
  split
  · simp
  · rename_i clause
    obtain ⟨below, other⟩ := reports clause rfl
    split
    · exact settled_ofTree (below.of_onlyChild? other ‹_›)
    · simp

end Predicate

/-! ## Statements -/

namespace Database

variable (reports : tree.Reports faults) (other : tree.token ≠ .columnDef)

include reports other

theorem settled_runCreate (database : Database) :
    Settled faults (database.runCreate now tree) := by
  simp only [runCreate, Raises.bind_iff, Tree.settled_require, true_and]
  intro target only
  have target_reports := reports.of_onlyChild? other (Tree.require_eq_ok.mp only)
  split
  · simp
  · rename_i table
    simp only [createTable, Raises.bind_iff, Tree.settled_require, true_and]
    intro named found
    obtain ⟨named_reports, identifier⟩ :=
      target_reports.of_find? (by rw [table]; decide) (Tree.require_eq_ok.mp found)
    have columns : Settled faults (Column.listOfTrees now [] named.children) :=
      Column.settled_listOfTrees (fun _ => named_reports.of_mem (by rw [identifier]; decide)) []
    split
    · split <;> simp
    · split <;> simp [columns]
  · simp

theorem settled_runInsert (database : Database) :
    Settled faults (database.runInsert now tree) := by
  simp only [runInsert]
  split
  · simp only [Raises.bind_iff, Raises.ok, Tree.settled_require, raises_relation,
      Relation.raises_targets, Relation.raises_insertAll, Raises.pure, true_and, implies_true,
      and_true]
    intro into _ values found relation _ targets _
    obtain ⟨rows, token⟩ := reports.of_find? other (Tree.require_eq_ok.mp found)
    exact Relation.settled_newRows (fun _ => rows.of_mem (by rw [token]; decide)) targets _
  · simp

theorem settled_where (relation : Relation) :
    Settled faults (Predicate.ofClause now relation (tree.find? .whereClause)) := by
  refine Predicate.settled_ofClause fun clause found => ?_
  obtain ⟨below, token⟩ := reports.of_find? other found
  exact ⟨below, by rw [token]; decide⟩

theorem settled_runUpdate (database : Database) :
    Settled faults (database.runUpdate now tree) := by
  simp only [runUpdate, Raises.bind_iff, Tree.settled_identifier, Tree.settled_require,
    raises_relation, settled_where reports other, Predicate.raises_mark, true_and]
  intro name _ set found relation _ predicate _
  obtain ⟨changes, token⟩ := reports.of_find? other (Tree.require_eq_ok.mp found)
  refine ⟨Raises.mapM fun change member =>
    Relation.settled_assignment (changes.of_mem (by rw [token]; decide) member), ?_⟩
  intro changes _ marked _
  refine ⟨Raises.mapM fun row _ => by split <;> simp, fun rows _ => ?_⟩
  split <;> simp

theorem settled_runDelete (database : Database) :
    Settled faults (database.runDelete now tree) := by
  simp [runDelete, settled_where reports other]

omit other in
/-- A statement that is no query and controls no transaction is only refused for its text where
that reports a number. -/
theorem settled_execute (kept : tree.token ∉ Token.select :: Tree.controlTokens)
    (database : Database) : Settled faults (database.execute now tree) := by
  simp only [Tree.controlTokens, List.mem_cons, List.not_mem_nil, or_false, not_or] at kept
  by_cases column : tree.token = .columnDef
  · simp [execute, column]
  unfold execute
  split
  · exact settled_runCreate reports column database
  · simp only [runDrop]
    split <;> simp
  · simp only [runTruncate]
    split <;> simp
  · exact settled_runInsert reports column database
  · exact settled_runUpdate reports column database
  · exact settled_runDelete reports column database
  · simp_all
  · simp_all
  · simp_all
  · simp_all
  · simp

end Database

/-! ## Scripts -/

/-- Whether a script has a number in it that is out of range, and what is said of it. -/
def Script.Overflows (text : String) (fault : ParseFault) : Prop :=
  ∃ trees, parse text = .ok trees ∧ ∃ tree ∈ trees, tree.Overflows fault

/-- Whether a script can be read and none of its statements is a query or controls a
transaction. -/
def Script.IsChange (text : String) : Prop :=
  ∃ trees, parse text = .ok trees ∧ ∀ tree ∈ trees, tree.token ∉ Token.select :: Tree.controlTokens

namespace Database

variable {database : Database} {error : Error}

theorem settled_of_run {text : String} (change : Script.IsChange text)
    (failed : (database.run now text).failure = some error) :
    error.IsSettled (Script.Overflows text) := by
  obtain ⟨trees, read, kept⟩ := change
  simp only [run, read] at failed
  obtain ⟨tree, member, before, executed⟩ := exists_of_runAll failed
  have reports : tree.Reports (Script.Overflows text) :=
    (Script.spelled_of_parse read tree member).reports fun fault found =>
      ⟨trees, read, tree, member, found⟩
  exact settled_execute reports (kept tree member) before _ executed

/-- A batch of changes is only refused for its text where a number in it is out of range. -/
theorem settled_of_runBatch {texts : List String} (changes : ∀ text ∈ texts, Script.IsChange text)
    (failed : (database.runBatch now texts).failure = some error) :
    error.IsSettled fun fault => ∃ text ∈ texts, Script.Overflows text fault := by
  simp only [runBatch] at failed
  split at failed
  · rename_i inside
    obtain rfl := Option.some.inj failed
    obtain ⟨text, member, before, ended⟩ := exists_of_runEach inside
    exact (settled_of_run (changes text member) ended).mono fun fault found =>
      ⟨text, member, found⟩
  · contradiction

end Database

end SqlEngine
