import SqlEngine.Predicate
import SqlEngine.Proofs.Calendars
import SqlEngine.Proofs.Comparisons
import SqlEngine.Proofs.Reals
import SqlEngine.Proofs.Typing
import SqlEngine.Proofs.Vocabulary

/-!
# Reading back values

The literal of a value is read by the grammar as a whole, and a column whose type can have the value
makes this very value of it.  This is proved of all values but the NaN, the infinities and the
timestamps.  A timestamp comes back as the first moment of its second.
-/

namespace SqlEngine

/-! ## Literals on paper -/

namespace Wording

open Grammar

/-- A literal that stands alone is read as a whole. -/
theorem literal_of_spelled (written : Literal) {mark : Mark} (alone : written.marks = [mark])
    {chars : List Char} (spelled : mark.Spelled chars) :
    ∃ tree, Grammar.literal chars = .done (tree, []) ∧ tree.SameButSpelling written.tree := by
  have paper : Written (written.marks ++ []) chars := by
    rw [alone, ← List.append_nil chars]
    exact .mark (List.forall_mem_nil _) spelled (fun _ contra => nomatch contra)
      (.blank (List.forall_mem_nil _))
  obtain ⟨tree, left, read, same, rest, -⟩ := reads_literal written trivial trivial paper
  -- The scanner has skipped the spaces behind the literal, and nothing else can be left.
  have trimmed : left.dropWhile isSpace = left := by
    rw [Grammar.literal, spaced_eq] at read
    obtain ⟨found, -, done⟩ := Attempt.bind_eq_done.mp read
    obtain ⟨-, rfl⟩ := Prod.mk.inj (Attempt.done.inj done)
    exact tight_dropWhile found.2
  cases rest with
  | blank spaces =>
      rw [← trimmed, List.dropWhile_eq_nil_iff.mpr spaces] at read
      exact ⟨tree, read, same⟩

end Wording

/-- The spelling of words has no part in the value of a literal. -/
theorem Tree.SameButSpelling.literalValue {left right : Tree} (same : left.SameButSpelling right)
    (now : Timestamp) : left.literalValue now = right.literalValue now := by
  obtain ⟨token, lexeme, children⟩ := left
  obtain ⟨token', lexeme', children'⟩ := right
  have parts := same.eq
  simp only [Tree.withoutSpelling_mk, Tree.mk.injEq] at parts
  obtain ⟨rfl, lexemes, -⟩ := parts
  cases token
  case stringLit | number =>
    obtain rfl : lexeme = lexeme' := lexemes
    rfl
  all_goals rfl

/-! ## Comparisons with literals -/

/-- A column is compared with what its type makes of a literal. -/
theorem Predicate.ofTree_equal {now : Timestamp} {relation : Relation} {name : String}
    {column : Column} {place : Nat} {tree : Tree} {value : Value}
    (found : relation.column name = .ok (column, place))
    (typed : tree.typedValue now column.type = .ok value) :
    ofTree now relation ⟨.equal, "=", [⟨.identifier, name, []⟩, tree]⟩ =
      .ok (compare place .equal value) := by
  obtain ⟨given, literal, converted⟩ := Checked.bind_eq_ok.mp typed
  have operand : operand now column tree = .ok value := by
    rw [Predicate.operand, literal]
    simp only [bind, Except.bind, converted]
    rfl
  simp only [ofTree, Comparison.ofToken?, ofComparison, subject, found]
  change (Predicate.operand now column tree >>= _) = _
  rw [operand]
  rfl

/-! ## Values -/

namespace Value

/-- Whether a value is no real, or a finite one. -/
def IsFinite : Value → Prop
  | real number => number ≠ .nan ∧ number.isInfinite = false
  | _ => True

/-- Whether a type is one for values of this kind, with room for this one.  Every type has the
null. -/
def HasType (type : ColumnType) : Value → Prop
  | null => True
  | integer _ => type = .integer ∨ type = .serial
  | real _ => type = .real
  | text content => type = .text ∨ ∃ limit, type = .varchar limit ∧ content.length ≤ limit
  | boolean _ => type = .boolean
  | date _ => type = .date
  | timestamp _ => type = .timestamp

theorem HasType.coerce {type : ColumnType} {value : Value} (typed : value.HasType type) :
    type.coerce value = .ok value := by
  cases value with
  | null => exact (ColumnType.holds_null type).1
  | integer number => exact (ColumnType.holds_integer typed number).1
  | text content =>
      rcases typed with rfl | ⟨limit, rfl, short⟩
      · rfl
      · exact if_neg (Nat.not_lt.mpr short)
  | _ =>
      obtain rfl := typed
      rfl

/-- What a literal is read as before a column takes it: dates and timestamps are texts. -/
def onPaper : Value → Value
  | date day => text day.toText
  | timestamp moment => text moment.toText
  | value => value

theorem literal_string (content : String) (now : Timestamp) :
    ∃ tree, Grammar.literal (Text.quoted content).toList = .done (tree, []) ∧
      tree.literalValue now = .ok (text content) := by
  obtain ⟨tree, read, same⟩ :=
    Wording.literal_of_spelled (.string content.toList) rfl (.string content.toList)
  refine ⟨tree, ?_, ?_⟩
  · rwa [Text.quoted, String.toList_ofList]
  · rw [same.literalValue]
    simp [Wording.Literal.tree, Tree.literalValue]

theorem literal_number (written : Wording.Number) {lexeme : String}
    (chars : written.chars = lexeme.toList) (now : Timestamp) :
    ∃ tree, Grammar.literal lexeme.toList = .done (tree, []) ∧
      tree.literalValue now = Tree.numberValue lexeme := by
  obtain ⟨tree, read, same⟩ := Wording.literal_of_spelled (.number written) rfl (.number written)
  rw [chars] at read
  refine ⟨tree, read, ?_⟩
  rw [same.literalValue]
  change Tree.numberValue (String.ofList written.chars) = _
  rw [chars, String.ofList_toList]

theorem literal_integer (number : Int64) (now : Timestamp) :
    ∃ tree, Grammar.literal (toString number.toInt).toList = .done (tree, []) ∧
      tree.literalValue now = .ok (integer number) := by
  have digit {c : Char} (member : c ∈ Nat.toDigits 10 number.toInt.natAbs) : c.isDigit = true :=
    Nat.isDigit_of_mem_toDigits (by decide) (by decide) member
  let digits : Wording.Digits :=
    ⟨Nat.toDigits 10 number.toInt.natAbs, Nat.toDigits_ne_nil, fun c => digit⟩
  let written : Wording.Number := ⟨decide (number.toInt < 0), digits, none⟩
  have chars : written.chars = (toString number.toInt).toList := by
    rw [Numeral.toList_toString]
    simp [Wording.Number.chars, written, digits]
  have no_point : (toString number.toInt).toList.contains '.' = false := by
    rw [Numeral.toList_toString, List.contains_eq_mem, decide_eq_false_iff_not, List.mem_append,
      not_or]
    constructor
    · split <;> decide
    · exact fun member => absurd (digit member) (by decide)
  obtain ⟨tree, read, value⟩ := literal_number written chars now
  refine ⟨tree, read, ?_⟩
  rw [value, Tree.numberValue]
  simp only [no_point, Bool.false_eq_true, if_false, Numeral.integer?_toString, Option.map_some]

theorem literal_real {number : Binary64} (is_number : number ≠ .nan)
    (finite : number.isInfinite = false) (now : Timestamp) :
    ∃ tree, Grammar.literal (realLiteral number).toList = .done (tree, []) ∧
      tree.literalValue now = .ok (real number) := by
  cases number with
  | nan => contradiction
  | signed negative rank =>
      obtain ⟨whole, fraction, split, plain, whole_some, fraction_some, reads⟩ :=
        Binary64.exists_realLiteral negative (beq_eq_false_iff_ne.mp finite)
      obtain ⟨whole_digits, fraction_digits⟩ := List.forall_mem_append.mp plain
      let written : Wording.Number := ⟨negative, ⟨whole, whole_some, whole_digits⟩,
        some ⟨fraction, fraction_some, fraction_digits⟩⟩
      have chars : written.chars = (realLiteral (.signed negative rank)).toList := by
        rw [split, ← List.append_assoc]
        rfl
      have point : (realLiteral (.signed negative rank)).toList.contains '.' = true := by
        rw [split]
        simp
      obtain ⟨tree, read, value⟩ := literal_number written chars now
      refine ⟨tree, read, ?_⟩
      rw [value, Tree.numberValue]
      simp only [point, if_true, reads, Option.map_some]

theorem literal_word (written : Wording.Literal) {expected : String}
    (alone : written.marks = [.word expected]) (nonempty : expected.toList ≠ [])
    (letters : expected.toList.all Grammar.isLetter = true) (now : Timestamp) :
    ∃ tree, Grammar.literal expected.toList = .done (tree, []) ∧
      tree.literalValue now = written.tree.literalValue now := by
  obtain ⟨tree, read, same⟩ := Wording.literal_of_spelled written alone
    (.word nonempty (List.all_eq_true.mp letters) rfl)
  exact ⟨tree, read, same.literalValue now⟩

/-- The literal of a value is read as a whole. -/
theorem exists_literal {value : Value} (finite : value.IsFinite) (now : Timestamp) :
    ∃ tree, Grammar.literal value.literal.toList = .done (tree, []) ∧
      tree.literalValue now = .ok value.onPaper := by
  cases value with
  | null => exact literal_word .null rfl (by decide) (by decide) now
  | integer number => exact literal_integer number now
  | real number => exact literal_real finite.1 finite.2 now
  | text content => exact literal_string content now
  | boolean truth =>
      cases truth with
      | true => exact literal_word (.boolean true) rfl (by decide) (by decide) now
      | false => exact literal_word (.boolean false) rfl (by decide) (by decide) now
  | date day => exact literal_string day.toText now
  | timestamp moment => exact literal_string moment.toText now

/-- The literal of a value other than a timestamp is read as this value by every type that can have
it. -/
theorem read_back {value : Value} (finite : value.IsFinite)
    (no_moment : ∀ moment, value ≠ timestamp moment) {type : ColumnType}
    (typed : value.HasType type) (now : Timestamp) :
    ∃ tree, Scan.whole Grammar.literal value.literal = some tree ∧
      tree.typedValue now type = .ok value := by
  obtain ⟨tree, read, given⟩ := exists_literal finite now
  refine ⟨tree, Scan.whole_eq_some.mpr read, ?_⟩
  rw [Tree.typedValue, given]
  change type.coerce value.onPaper = .ok value
  cases value with
  | timestamp moment => exact absurd rfl (no_moment moment)
  | date day =>
      obtain rfl : type = .date := typed
      simp only [onPaper, ColumnType.coerce, Date.ofText?_toText]
  | _ => exact typed.coerce

/-- Zero keeps its minus sign, and a day before the year zero keeps its year. -/
theorem minus_zero_and_early_day_read_back :
    let minusZero := Binary64.signed true (Binary64.Rank.ofNat 0)
    let day : Date := ⟨-1, 2, 28, by decide⟩
    ((real minusZero).literal = "-0.0" ∧
      ∃ tree, Scan.whole Grammar.literal (real minusZero).literal = some tree ∧
        tree.typedValue day.atMidnight .real = .ok (real minusZero)) ∧
      (date day).literal = "'-0001-02-28'" ∧
      ∃ tree, Scan.whole Grammar.literal (date day).literal = some tree ∧
        tree.typedValue day.atMidnight .date = .ok (date day) := by
  intro minusZero day
  have finite : (real minusZero).IsFinite := ⟨by decide, by decide⟩
  have dated : (date day).IsFinite := trivial
  exact ⟨⟨by decide, read_back finite (fun _ => by simp) rfl _⟩, by decide,
    read_back dated (fun _ => by simp) rfl _⟩

/-! ## Moments -/

/-- A moment is equal to the first moment of its second just when it is this moment. -/
theorem comparesWith_toSecond (moment : Timestamp) :
    Predicate.comparesWith .equal (timestamp moment) (timestamp moment.toSecond) =
      .ok (decide moment.IsWhole) := by
  have equal : moment.compare moment.toSecond = .eq ↔ moment.IsWhole := by
    rw [Timestamp.compare_eq_iff, eq_comm, Timestamp.toSecond_eq_self_iff]
  exact congrArg Except.ok (Bool.eq_iff_iff.mpr (by simpa [Comparison.holds] using equal))

/-- A moment that a text stands for is given back by its own text as the first moment of its second,
and so is it by its literal in a column of moments.  The search for its text in this column finds
its row just when it is a whole second, as it is if the text had no point. -/
theorem moment_read_back {source : String} {moment : Timestamp}
    (read : Timestamp.ofText? source = some moment) (now : Timestamp) :
    Timestamp.ofText? (timestamp moment).toText = some moment.toSecond ∧
      (timestamp moment).literal = Text.quoted (timestamp moment).toText ∧
      (∃ tree, Scan.whole Grammar.literal (timestamp moment).literal = some tree ∧
        tree.typedValue now .timestamp = .ok (timestamp moment.toSecond) ∧
        ∀ {relation : Relation} {name : String} {column : Column} {place : Nat} {row : Row},
          relation.column name = .ok (column, place) → column.type = .timestamp →
          row.cell place = .ok (timestamp moment) →
          (Predicate.ofTree now relation ⟨.equal, "=", [⟨.identifier, name, []⟩, tree]⟩ >>=
            Predicate.holds row) = .ok (decide moment.IsWhole)) ∧
      (Timestamp.ofText? (timestamp moment).toText = some moment ↔ moment.IsWhole) ∧
      ('.' ∉ source.toList → moment.IsWhole) := by
  have again : Timestamp.ofText? (timestamp moment).toText = some moment.toSecond :=
    moment.ofText?_toText
  obtain ⟨tree, paper, given⟩ := literal_string moment.toText now
  have typed : tree.typedValue now .timestamp = .ok (timestamp moment.toSecond) := by
    rw [Tree.typedValue, given]
    change ColumnType.coerce .timestamp (text (timestamp moment).toText) = _
    simp only [ColumnType.coerce, again]
  refine ⟨again, rfl, ⟨tree, Scan.whole_eq_some.mpr paper, typed, ?_⟩, ?_,
    Timestamp.isWhole_of_no_point read⟩
  · intro relation name column place row found type held
    rw [Predicate.ofTree_equal found (type.symm ▸ typed)]
    change Predicate.holds row (.compare place .equal (timestamp moment.toSecond)) = _
    rw [Predicate.holds, held]
    exact comparesWith_toSecond moment
  · rw [again, Option.some.injEq, Timestamp.toSecond_eq_self_iff]

/-- A quarter of a second is lost: the search for the text of the moment does not find it. -/
theorem quarter_of_second_lost :
    let moment : Timestamp := ⟨⟨2024, 1, 1, by decide⟩, ⟨0, 0, 0, 250000000, by decide⟩⟩
    Timestamp.ofText? "2024-01-01T00:00:00.25Z" = some moment ∧
      (timestamp moment).toText = "2024-01-01 00:00:00" ∧
      Timestamp.ofText? (timestamp moment).toText ≠ some moment ∧
      (timestamp moment).compare? (text (timestamp moment).toText) = some .gt := by
  decide

/-- A leap second on the clock of another zone keeps its moment, and the search for it finds it. -/
theorem leap_second_read_back :
    let moment : Timestamp := ⟨⟨2016, 12, 31, by decide⟩, ⟨23, 59, 59, 1000000000, by decide⟩⟩
    let moments : Relation := { name := "t", columns := [Column.ofType "x" .timestamp] }
    Timestamp.ofText? "2017-01-01T00:59:60+01:00" = some moment ∧
      (timestamp moment).literal = "'2016-12-31 23:59:60'" ∧
      Timestamp.ofText? (timestamp moment).toText = some moment ∧
      ∃ tree, Scan.whole Grammar.literal (timestamp moment).literal = some tree ∧
        (Predicate.ofTree moment moments ⟨.equal, "=", [⟨.identifier, "x", []⟩, tree]⟩ >>=
          Predicate.holds [timestamp moment]) = .ok true := by
  intro moment moments
  have read : Timestamp.ofText? "2017-01-01T00:59:60+01:00" = some moment := by decide
  obtain ⟨-, -, ⟨tree, paper, -, finds⟩, same, pointless⟩ := moment_read_back read moment
  have found : moments.column "x" = .ok (Column.ofType "x" .timestamp, 0) := rfl
  have whole : moment.IsWhole := pointless (by decide)
  exact ⟨read, by decide, same.mpr whole, tree, paper,
    (finds found rfl rfl).trans (congrArg Except.ok (decide_eq_true whole))⟩

end Value
end SqlEngine
