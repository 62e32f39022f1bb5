import SqlEngine.Proofs.Changes

/-!
# Numbering rows

A table gives numbers to its rows from a sequence: every number that it hands out is the sequence of
that moment, and behind it the sequence is higher.  A number that a row brings along raises the
sequence as well, so that behind a statement the sequence is above all numbers that it has stored.
-/

namespace SqlEngine

/-! ## Nulls among literals -/

theorem ColumnType.isNull_of_coerce {type : ColumnType} {given typed : Value}
    (converted : type.coerce given = .ok typed) : typed.isNull = given.isNull := by
  unfold coerce at converted
  split at converted <;> grind [Value.isNull]

namespace Tree

theorem isNull_of_numberValue {lexeme : String} {value : Value}
    (read : numberValue lexeme = .ok value) : value.isNull = false := by
  simp only [numberValue] at read
  split at read
  · obtain rfl := Except.ok.inj read
    rename_i found
    split at found
    all_goals
      obtain ⟨_, -, rfl⟩ := Option.map_eq_some_iff.mp found
      rfl
  · contradiction

theorem isNull_of_literalValue {now : Timestamp} {tree : Tree} {value : Value}
    (read : tree.literalValue now = .ok value) : value.isNull = (tree.token == .nullWord) := by
  unfold literalValue at read
  split at read <;> rename_i token
  case h_6 => rw [isNull_of_numberValue read, token]; rfl
  case h_7 => contradiction
  all_goals
    obtain rfl := Except.ok.inj read
    rw [token]
    rfl

/-- A column takes the word for the null as a null, and no other literal. -/
theorem isNull_of_typedValue {now : Timestamp} {type : ColumnType} {tree : Tree} {value : Value}
    (read : tree.typedValue now type = .ok value) :
    value.isNull = (tree.token == .nullWord) := by
  obtain ⟨given, literal, converted⟩ := Checked.bind_eq_ok.mp read
  rw [ColumnType.isNull_of_coerce converted, isNull_of_literalValue literal]

end Tree

/-! ## The next number -/

/-- The next number is the exact one, whatever the numbers are: nothing overflows. -/
theorem advance_eq_ok {current id next : Int64} :
    advance current id = .ok next ↔
      id ≠ .maxValue ∧ next.toInt = max current.toInt (id.toInt + 1) := by
  unfold advance
  split
  · simp_all
  · rename_i below
    have exact_succ : (id + 1).toInt = id.toInt + 1 := by
      have top : id.toInt ≠ Int64.maxValue.toInt := fun same => below (Int64.toInt_inj.mp same)
      have low := Int64.le_toInt id
      have high := Int64.toInt_lt id
      rw [Int64.toInt_maxValue] at top
      rw [Int64.toInt_add, Int64.toInt_one]
      apply Int.bmod_eq_of_le <;> omega
    simp only [ne_eq, below, not_false_eq_true, true_and, Except.ok.injEq, ← Int64.toInt_inj,
      Int64.le_iff_toInt_le]
    split
    · rw [exact_succ]
      omega
    · omega

theorem advance_eq_error {current id : Int64} {error : Error} :
    advance current id = .error error ↔ id = .maxValue ∧ error = .constraint .exhausted := by
  unfold advance
  split <;> simp_all [eq_comm]

namespace Numbering

variable {numbering middle after : Numbering}

/-- Whether a numbering hands out numbers, in order, and becomes another by it. -/
structure Gives (numbering : Numbering) (ids : List Int64) (after : Numbering) : Prop where
  /-- The sequence never falls. -/
  sequence_le : numbering.sequence ≤ after.sequence
  /-- The numbers are those that the sequence passes by. -/
  within : ∀ id ∈ ids, numbering.sequence ≤ id ∧ id < after.sequence
  /-- Each number is higher than those before. -/
  increasing : ids.Pairwise (· < ·)
  /-- The last number is kept in mind. -/
  lastId_eq : after.lastId = ids.getLast?.getD numbering.lastId

theorem Gives.refl (numbering : Numbering) : numbering.Gives [] numbering :=
  ⟨Int64.le_refl _, by simp, .nil, rfl⟩

theorem Gives.trans {first second : List Int64} (gives : numbering.Gives first middle)
    (others : middle.Gives second after) : numbering.Gives (first ++ second) after where
  sequence_le := Int64.le_trans gives.sequence_le others.sequence_le
  within := by
    intro id member
    rcases List.mem_append.mp member with old | new
    · obtain ⟨above, below⟩ := gives.within id old
      exact ⟨above, Int64.lt_of_lt_of_le below others.sequence_le⟩
    · obtain ⟨above, below⟩ := others.within id new
      exact ⟨Int64.le_trans gives.sequence_le above, below⟩
  increasing := by
    refine List.pairwise_append.mpr ⟨gives.increasing, others.increasing, ?_⟩
    intro old left new right
    exact Int64.lt_of_lt_of_le (gives.within old left).2 (others.within new right).1
  lastId_eq := by
    rw [others.lastId_eq, gives.lastId_eq, List.getLast?_append]
    cases second.getLast? <;> simp

/-- Taking note of a value raises the sequence above it, and hands nothing out. -/
theorem note_eq_ok {value : Value} (done : numbering.note value = .ok after) :
    numbering.sequence ≤ after.sequence ∧ after.lastId = numbering.lastId ∧
      ∀ id, value = .integer id → id < after.sequence := by
  unfold note at done
  split at done
  · simp only [Checked.bind_eq_ok, Checked.pure_eq_ok] at done
    obtain ⟨next, advanced, rfl⟩ := done
    obtain ⟨-, exactly⟩ := advance_eq_ok.mp advanced
    refine ⟨?_, rfl, ?_⟩
    · rw [Int64.le_iff_toInt_le, exactly]
      omega
    · rintro _ ⟨⟩
      rw [Int64.lt_iff_toInt_lt, exactly]
      omega
  · obtain rfl := Checked.pure_eq_ok.mp done
    rename_i other
    exact ⟨Int64.le_refl _, rfl, fun id same => absurd same (other id)⟩

/-- A number is handed out by taking note of the sequence itself. -/
theorem gives_of_note
    (done : note { numbering with lastId := numbering.sequence } (.integer numbering.sequence) =
      .ok after) : numbering.Gives [numbering.sequence] after := by
  obtain ⟨raised, last, above⟩ := note_eq_ok done
  refine ⟨raised, ?_, List.pairwise_singleton _ _, last⟩
  rintro id member
  obtain rfl := List.mem_singleton.mp member
  exact ⟨Int64.le_refl _, above _ rfl⟩

/-- Whether a column numbers its rows and a row leaves its cell to the table: it says nothing about
it, or null. -/
def LeavesTo (column : Column) (given : Option Value) : Bool :=
  column.autoincrement && given.all (·.isNull)

/-- A cell gets a number from the table just where it is left to the table, and every number in a
column that numbers its rows is below the sequence behind it. -/
theorem gives_of_cell {column : Column} {given : Option Value} {value : Value}
    (done : numbering.cell column given = .ok (value, after)) :
    (∃ ids : List Int64, (if LeavesTo column given then [value] else []) = ids.map .integer ∧
      numbering.Gives ids after) ∧
    (column.autoincrement = true → ∀ id, value = .integer id → id < after.sequence) := by
  unfold cell at done
  split at done
  · rename_i numbers
    split at done
    · rename_i said
      split at done
      · rename_i null
        simp only [Checked.bind_eq_ok, Checked.pure_eq_ok, Prod.mk.injEq] at done
        obtain ⟨_, noted, rfl, rfl⟩ := done
        refine ⟨⟨[numbering.sequence], by simp [LeavesTo, numbers, null], gives_of_note noted⟩, ?_⟩
        exact fun _ => (note_eq_ok noted).2.2
      · rename_i filled
        simp only [Checked.bind_eq_ok, Checked.pure_eq_ok, Prod.mk.injEq] at done
        obtain ⟨_, noted, rfl, rfl⟩ := done
        obtain ⟨raised, last, above⟩ := note_eq_ok noted
        refine ⟨⟨[], by simp [LeavesTo, filled], raised, by simp, .nil, last⟩, fun _ => above⟩
    · simp only [Checked.bind_eq_ok, Checked.pure_eq_ok, Prod.mk.injEq] at done
      obtain ⟨_, noted, rfl, rfl⟩ := done
      refine ⟨⟨[numbering.sequence], by simp [LeavesTo, numbers], gives_of_note noted⟩, ?_⟩
      exact fun _ => (note_eq_ok noted).2.2
  · rename_i plain
    obtain ⟨rfl, rfl⟩ := Prod.mk.inj (Checked.pure_eq_ok.mp done)
    exact ⟨⟨[], by simp [LeavesTo, plain], .refl numbering⟩, fun numbers => absurd numbers plain⟩

/-- The cells of a row that are left to the table. -/
def leftCells (entries : List (Column × Option Value)) (cells : Row) : List Value :=
  ((entries.zip cells).filter fun ((column, given), _) => LeavesTo column given).map (·.2)

/-- The cells of a row that are left to the table get the numbers that it hands out, and the other
numbers in the row are below the sequence behind it as well. -/
theorem gives_of_row {entries : List (Column × Option Value)} {cells : Row}
    (done : numbering.row entries = .ok (cells, after)) :
    (∃ ids : List Int64, leftCells entries cells = ids.map .integer ∧ numbering.Gives ids after) ∧
    ∀ (column : Column) (place : Nat) (id : Int64), (entries.map (·.1))[place]? = some column →
      column.autoincrement = true → cells[place]? = some (.integer id) → id < after.sequence := by
  induction entries generalizing numbering cells with
  | nil =>
      obtain ⟨rfl, rfl⟩ := Prod.mk.inj (Except.ok.inj done)
      exact ⟨⟨[], rfl, .refl numbering⟩, by simp⟩
  | cons entry entries induction =>
      obtain ⟨column, given⟩ := entry
      simp only [row, Checked.bind_eq_ok, Checked.pure_eq_ok, Prod.mk.injEq] at done
      obtain ⟨⟨value, middle⟩, first, _, -, ⟨others, last⟩, rest, rfl, rfl⟩ := done
      obtain ⟨⟨ids, cell, gives⟩, below⟩ := gives_of_cell first
      obtain ⟨⟨more, left, then_gives⟩, others_below⟩ := induction rest
      refine ⟨⟨ids ++ more, ?_, gives.trans then_gives⟩, ?_⟩
      · rw [List.map_append, ← cell, ← left]
        by_cases leaves : LeavesTo column given = true
        · simp [leftCells, leaves]
        · simp [leftCells, leaves]
      · intro found place id here numbers there
        cases place with
        | zero =>
            obtain rfl : column = found := Option.some.inj here
            obtain rfl : value = .integer id := Option.some.inj there
            exact Int64.lt_of_lt_of_le (below numbers id rfl) then_gives.sequence_le
        | succ place => exact others_below found place id here numbers there

end Numbering

namespace Relation

variable {now : Timestamp} {relation : Relation} {numbering after : Numbering}

/-- Whether a row leaves the cell in a place to the table: no literal of it stands for the place, or
the word for the null does. -/
def leavesOut (targets : List (Column × Nat)) (tuple : Tree) (place : Nat) : Bool :=
  ((targets.zip tuple.children).find? (·.1.2 == place)).all (·.2.token == .nullWord)

/-- The cells of new rows that hold numbers handed out by the table: those of columns that number
their rows, as far as the rows leave them to the table. -/
def handedOut (relation : Relation) (targets : List (Column × Nat)) (tuples : List Tree)
    (rows : List Row) : List Value :=
  (tuples.zip rows).flatMap fun (tuple, row) =>
    ((relation.columns.zipIdx.zip row).filter fun ((column, place), _) =>
      column.autoincrement && leavesOut targets tuple place).map (·.2)

/-- The values that a row gives leave out the same places as its literals. -/
theorem all_isNull_lookup {targets : List (Column × Nat)} {tuple : Tree}
    {given : List (Nat × Value)} (done : givenValues now targets tuple.children = .ok given)
    (place : Nat) : (given.lookup place).all (·.isNull) = leavesOut targets tuple place := by
  unfold leavesOut
  have all := Checked.mapM_eq_ok.mp done
  generalize targets.zip tuple.children = pairs at all ⊢
  clear done
  induction all with
  | nil => rfl
  | @cons pair entry pairs entries first _ induction =>
      obtain ⟨⟨column, target⟩, literal⟩ := pair
      simp only [Checked.bind_eq_ok, Checked.pure_eq_ok] at first
      obtain ⟨value, typed, rfl⟩ := first
      by_cases here : target = place
      · subst here
        rw [List.lookup_cons, beq_self_eq_true, List.find?_cons_of_pos (by simp)]
        simpa using Tree.isNull_of_typedValue typed
      · have there : (place == target) = false := by simpa using Ne.symm here
        rw [List.lookup_cons, there, List.find?_cons_of_neg (by simpa using here)]
        exact induction

/-- The cells of new rows that are left to the table get the numbers that it hands out, and the
other numbers in the rows are below the sequence behind them as well. -/
theorem gives_of_newRows {targets : List (Column × Nat)} {tuples : List Tree} {rows : List Row}
    (done : relation.newRows now targets numbering tuples = .ok (rows, after)) :
    (∃ ids : List Int64, relation.handedOut targets tuples rows = ids.map .integer ∧
      numbering.Gives ids after) ∧
    ∀ row ∈ rows, ∀ (column : Column) (place : Nat) (id : Int64),
      relation.columns[place]? = some column → column.autoincrement = true →
      row[place]? = some (.integer id) → id < after.sequence := by
  induction tuples generalizing numbering rows with
  | nil =>
      obtain ⟨rfl, rfl⟩ := Prod.mk.inj (Except.ok.inj done)
      exact ⟨⟨[], rfl, .refl numbering⟩, by simp⟩
  | cons tuple tuples induction =>
      simp only [newRows] at done
      split at done
      · simp [Checked.bind_eq_ok] at done
      · simp only [Checked.bind_eq_ok, Checked.pure_eq_ok, Prod.mk.injEq] at done
        obtain ⟨given, values, ⟨row, middle⟩, first, ⟨others, last⟩, rest, rfl, rfl⟩ := done
        obtain ⟨⟨ids, left, gives⟩, below⟩ := Numbering.gives_of_row first
        obtain ⟨⟨more, handed, then_gives⟩, others_below⟩ := induction rest
        refine ⟨⟨ids ++ more, ?_, gives.trans then_gives⟩, ?_⟩
        · rw [List.map_append, ← left, ← handed]
          simp only [handedOut, List.zip_cons_cons, List.flatMap_cons, Numbering.leftCells,
            List.zip_map_left, List.filter_map, List.map_map]
          congr 2
          refine List.filter_congr fun entry _ => ?_
          simp [Numbering.LeavesTo, all_isNull_lookup values]
        · intro found member column place id here numbers there
          rcases List.mem_cons.mp member with rfl | member
          · refine Int64.lt_of_lt_of_le (below column place id ?_ numbers there)
              then_gives.sequence_le
            simpa [Function.comp_def] using here
          · exact others_below found member column place id here numbers there

/-- The numbering behind several changes is above the numbers that they put into columns that number
their rows. -/
theorem lt_of_noteChanges {changes : List (Column × Nat × Value)}
    (done : noteChanges numbering changes = .ok after) :
    numbering.sequence ≤ after.sequence ∧ ∀ column place id,
      (column, place, .integer id) ∈ changes → column.autoincrement = true →
      id < after.sequence := by
  induction changes generalizing numbering with
  | nil =>
      obtain rfl := Except.ok.inj done
      exact ⟨Int64.le_refl _, by simp⟩
  | cons change changes induction =>
      obtain ⟨column, place, value⟩ := change
      unfold noteChanges at done
      rw [List.foldlM_cons] at done
      obtain ⟨middle, noted, rest⟩ := Checked.bind_eq_ok.mp done
      obtain ⟨raised, others⟩ := induction rest
      have first : numbering.sequence ≤ middle.sequence ∧
          ∀ id, value = .integer id → column.autoincrement = true → id < middle.sequence := by
        dsimp only at noted
        split at noted
        · obtain ⟨raised, -, above⟩ := Numbering.note_eq_ok noted
          exact ⟨raised, fun id same _ => above id same⟩
        · rename_i plain
          obtain rfl := Except.ok.inj noted
          exact ⟨Int64.le_refl _, fun _ _ numbers => absurd numbers plain⟩
      refine ⟨Int64.le_trans first.1 raised, fun found place' id member numbers => ?_⟩
      rcases List.mem_cons.mp member with same | member
      · obtain ⟨rfl, -, rfl⟩ : found = column ∧ place' = place ∧ .integer id = value := by
          simpa using same
        exact Int64.lt_of_lt_of_le (first.2 id rfl numbers) raised
      · exact others found place' id member numbers

/-- A cell of a changed row was there before, or one of the changes has put it there. -/
theorem getElem?_of_assign {changes : List (Column × Nat × Value)} {row changed : Row}
    (done : assign changes row = .ok changed) {place : Nat} {value : Value}
    (found : changed[place]? = some value) :
    row[place]? = some value ∨ ∃ column, (column, place, value) ∈ changes := by
  let explained (state : Row) : Prop := ∀ place value, state[place]? = some value →
    row[place]? = some value ∨ ∃ column, (column, place, value) ∈ changes
  have start : explained row := fun _ _ => .inl
  refine Checked.foldlM_keeps ?_ done start place value found
  rintro ⟨column, target, put⟩ member before next stepped kept place value found
  obtain ⟨inside, rfl⟩ := Row.put_eq_ok.mp stepped
  by_cases here : target = place
  · subst here
    obtain rfl : put = value := by simpa [inside] using found
    exact .inr ⟨column, member⟩
  · rw [List.getElem?_set_ne here] at found
    exact kept place value found

end Relation
end SqlEngine
