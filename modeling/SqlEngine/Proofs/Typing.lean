import SqlEngine.Execution.Literal
import SqlEngine.Proofs.Checked
import SqlEngine.Proofs.Scanning

/-!
# Values and the types that hold them

A type holds a value that its conversion leaves as it is.  The literal of a statement is never a
NaN, and so what a column makes of a literal is always held by the type of the column.
-/

namespace SqlEngine

/-- Whether the cells of a type can have a value.  A NaN is not even equal to itself, so that its
conversion does not leave it as it is. -/
def ColumnType.Holds (type : ColumnType) (value : Value) : Prop :=
  type.coerce value = .ok value ∧ value ≠ .real .nan

namespace ColumnType

theorem holds_null (type : ColumnType) : type.Holds .null := by
  cases type <;> simp [Holds, coerce]

theorem holds_integer {type : ColumnType} (whole : type = .integer ∨ type = .serial)
    (number : Int64) : type.Holds (.integer number) := by
  rcases whole with rfl | rfl <;> simp [Holds, coerce]

theorem length_le_of_holds {limit : Nat} {content : String}
    (held : (varchar limit).Holds (.text content)) : content.length ≤ limit := by
  by_contra long
  have refused := held.1
  simp [coerce, Nat.lt_of_not_le long] at refused

/-- Conversion is idempotent: what it gives is held. -/
theorem holds_of_coerce {type : ColumnType} {given typed : Value}
    (converted : type.coerce given = .ok typed) (given_ne : given ≠ .real .nan) :
    type.Holds typed := by
  unfold coerce at converted
  split at converted
  · obtain rfl := Except.ok.inj converted
    exact holds_null _
  · obtain rfl := Except.ok.inj converted
    exact holds_integer (.inl rfl) _
  · obtain rfl := Except.ok.inj converted
    exact holds_integer (.inr rfl) _
  · obtain rfl := Except.ok.inj converted
    exact ⟨rfl, given_ne⟩
  · obtain rfl := Except.ok.inj converted
    exact ⟨rfl, by simp [Value.asReal, Binary64.ofInt]⟩
  · obtain rfl := Except.ok.inj converted
    exact ⟨rfl, by simp⟩
  · split at converted
    · contradiction
    · obtain rfl := Except.ok.inj converted
      rename_i short
      exact ⟨by simp [coerce, short], by simp⟩
  · obtain rfl := Except.ok.inj converted
    exact ⟨rfl, by simp⟩
  · split at converted
    · obtain rfl := Except.ok.inj converted
      exact ⟨rfl, by simp⟩
    · contradiction
  · obtain rfl := Except.ok.inj converted
    exact ⟨rfl, by simp⟩
  · obtain rfl := Except.ok.inj converted
    exact ⟨rfl, by simp⟩
  · split at converted
    · obtain rfl := Except.ok.inj converted
      exact ⟨rfl, by simp⟩
    · contradiction
  · obtain rfl := Except.ok.inj converted
    exact ⟨rfl, by simp⟩
  · obtain rfl := Except.ok.inj converted
    exact ⟨rfl, by simp⟩
  · split at converted
    · obtain rfl := Except.ok.inj converted
      exact ⟨rfl, by simp⟩
    · contradiction
  · contradiction

end ColumnType

/-! ## Literals -/

namespace Binary64

private theorem point_notMem_of_anyCase {word : String} {chars : List Char}
    (read : anyCase word chars = .done ((), [])) (letters : ∀ letter ∈ word.toList, letter ≠ '.') :
    '.' ∉ chars := by
  obtain ⟨left, stripped, same⟩ :=
    Option.map_eq_some_iff.mp (Attempt.ofOption_eq_done.mp read)
  obtain ⟨front, rfl, matched⟩ := Scan.strip?_eq_some.mp stripped
  obtain rfl : left = [] := congrArg Prod.snd same
  rw [List.append_nil]
  intro member
  obtain ⟨letter, inside, agrees⟩ := Checked.exists_of_mem_right matched member
  have lower : ('.' : Char).toLower = letter := by simpa using agrees
  exact letters letter inside lower.symm

/-- A text with a point in it does not stand for a NaN, which is written as a word. -/
theorem ofText?_ne_nan {text : String} (point : '.' ∈ text.toList) : ofText? text ≠ some nan := by
  intro read
  have scanned := Scan.whole_eq_some.mp read
  simp only [scan, Scan.bind_eq_done, Scan.orElse_eq_done, Scan.seqRight_eq_done,
    Scan.pure_eq_done, Scan.char_eq_done] at scanned
  obtain ⟨negative, left, sign, word⟩ := scanned
  have inside : '.' ∈ left := by
    rcases sign with ⟨_, _, split, -, rfl⟩ | ⟨-, ⟨_, _, split, -, rfl⟩ | ⟨-, -, rfl⟩⟩
    · rw [split] at point
      exact (List.mem_cons.mp point).resolve_left (by decide)
    · rw [split] at point
      exact (List.mem_cons.mp point).resolve_left (by decide)
    · exact point
  rcases word with ⟨_, _, -, contra, -⟩ | ⟨-, ⟨_, _, -, contra, -⟩ | ⟨-, word⟩⟩
  · contradiction
  · contradiction
  · rcases word with ⟨_, _, named, -, rfl⟩ | ⟨-, ⟨_, _, -, contra, -⟩⟩
    · exact point_notMem_of_anyCase named (by simp) inside
    · contradiction

end Binary64

namespace Tree

theorem numberValue_ne_nan {lexeme : String} {value : Value}
    (read : numberValue lexeme = .ok value) : value ≠ .real .nan := by
  rintro rfl
  simp only [numberValue] at read
  split at read
  · rename_i found reading
    obtain rfl := Except.ok.inj read
    split at reading
    · rename_i point
      obtain ⟨number, read, same⟩ := Option.map_eq_some_iff.mp reading
      obtain rfl := Value.real.inj same
      exact Binary64.ofText?_ne_nan (List.contains_iff_mem.mp point) read
    · obtain ⟨number, -, contra⟩ := Option.map_eq_some_iff.mp reading
      contradiction
  · contradiction

theorem literalValue_ne_nan {now : Timestamp} {tree : Tree} {value : Value}
    (read : tree.literalValue now = .ok value) : value ≠ .real .nan := by
  unfold literalValue at read
  split at read
  case h_6 => exact numberValue_ne_nan read
  case h_7 => contradiction
  all_goals
    obtain rfl := Except.ok.inj read
    simp

/-- What a column makes of a literal is held by the type of the column. -/
theorem holds_of_typedValue {now : Timestamp} {type : ColumnType} {tree : Tree} {value : Value}
    (read : tree.typedValue now type = .ok value) : type.Holds value := by
  obtain ⟨given, literal, converted⟩ := Checked.bind_eq_ok.mp read
  exact ColumnType.holds_of_coerce converted (literalValue_ne_nan literal)

end Tree
end SqlEngine
