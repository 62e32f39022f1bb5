import SqlEngine.Text.Numeral
import Mathlib.Tactic.Ring

/-!
# Digits

A whole number is the value of its digits, however many zeros stand in front of them.  An integer of
64 bits is read back from its text.
-/

namespace SqlEngine
namespace Numeral

/-- Digits stand for a number as in the library. -/
theorem value_eq_ofDigitChars (digits : List Char) : value digits = Nat.ofDigitChars 10 digits 0 :=
  rfl

@[simp]
theorem value_toDigits (number : Nat) : value (Nat.toDigits 10 number) = number := by
  rw [value_eq_ofDigitChars, Nat.ofDigitChars_ten_toDigits]

theorem value_append_zeros (digits : List Char) (power : Nat) :
    value (digits ++ List.replicate power '0') = value digits * 10 ^ power := by
  rw [value_eq_ofDigitChars, Nat.ofDigitChars_append, Nat.ofDigitChars_replicate_zero, Nat.mul_comm]
  rfl

@[simp]
theorem value_padded (width number : Nat) : value (padded width number) = number := by
  simp [padded, value_eq_ofDigitChars, Nat.ofDigitChars_append]

theorem isDigit_of_mem_padded {width number : Nat} {c : Char} (member : c ∈ padded width number) :
    c.isDigit = true := by
  rcases List.mem_append.mp member with zero | digit
  · rw [List.eq_of_mem_replicate zero]
    decide
  · exact Nat.isDigit_of_mem_toDigits (by decide) (by decide) digit

theorem le_length_padded (width number : Nat) : width ≤ (padded width number).length := by
  simp only [padded, List.length_append, List.length_replicate]
  omega

theorem length_padded {width number : Nat} (positive : 0 < width) (short : number < 10 ^ width) :
    (padded width number).length = width := by
  have digits : (Nat.toDigits 10 number).length ≤ width :=
    (Nat.length_toDigits_le_iff (by decide) positive).mpr short
  simp only [padded, List.length_append, List.length_replicate]
  omega

theorem padded_inj {width first second : Nat} :
    padded width first = padded width second ↔ first = second := by
  refine ⟨fun same => ?_, fun same => by rw [same]⟩
  rw [← value_padded width first, same, value_padded]

/-! ## Integers -/

/-- An integer is written as its digits, behind a minus sign if it is negative. -/
theorem toList_toString (number : Int) :
    (toString number).toList =
      (if decide (number < 0) then ['-'] else []) ++ Nat.toDigits 10 number.natAbs := by
  cases number with
  | ofNat number => simp [Int.toString_eq_repr, Int.repr]
  | negSucc number => simp [Int.toString_eq_repr, Int.repr, String.toList_append]

theorem natural?_toDigits (number : Nat) :
    natural? (Nat.toDigits 10 number) = some number := by
  have digits : (Nat.toDigits 10 number).all Char.isDigit = true :=
    List.all_eq_true.mpr fun c => Nat.isDigit_of_mem_toDigits (by decide) (by decide)
  have nonempty : (Nat.toDigits 10 number).isEmpty = false :=
    List.isEmpty_eq_false_iff.mpr Nat.toDigits_ne_nil
  rw [natural?, digits, nonempty, value_toDigits]
  rfl

theorem bounded?_toInt (number : Int64) : bounded? number.toInt = some number := by
  have below := number.le_toInt
  have above := number.toInt_lt
  rw [bounded?, if_pos (by simp; omega), Int64.ofInt_toInt]

theorem integer?_of_minus {digits : List Char} {number : Nat}
    (read : natural? digits = some number) : integer? ('-' :: digits) = bounded? (-number) := by
  change ((natural? digits).map fun n => -(n : Int)).bind bounded? = _
  rw [read]
  rfl

theorem integer?_of_digit {c : Char} (digit : c.isDigit = true) {digits : List Char}
    {number : Nat} (read : natural? (c :: digits) = some number) :
    integer? (c :: digits) = bounded? number := by
  have unsigned {sign : Char} (other : sign.isDigit = false) : c ≠ sign := by
    rintro rfl
    rw [other] at digit
    contradiction
  unfold integer?
  split
  · rename_i same
    exact absurd (List.cons.inj same).1 (unsigned (by decide))
  · rename_i same
    exact absurd (List.cons.inj same).1 (unsigned (by decide))
  · rw [read]
    rfl

/-- An integer of 64 bits is read back from its digits. -/
theorem integer?_toString (number : Int64) :
    integer? (toString number.toInt).toList = some number := by
  have read := natural?_toDigits number.toInt.natAbs
  rw [toList_toString]
  by_cases negative : number.toInt < 0
  · have value : -(number.toInt.natAbs : Int) = number.toInt := by omega
    rw [decide_eq_true negative, if_pos rfl, List.singleton_append, integer?_of_minus read, value]
    exact bounded?_toInt number
  · have value : (number.toInt.natAbs : Int) = number.toInt := by omega
    obtain ⟨c, digits, split⟩ := List.exists_cons_of_ne_nil
      (@Nat.toDigits_ne_nil number.toInt.natAbs 10)
    have digit : c.isDigit = true := Nat.isDigit_of_mem_toDigits (by decide) (by decide)
      (split ▸ List.mem_cons_self)
    rw [decide_eq_false negative, if_neg Bool.false_ne_true, List.nil_append]
    rw [split] at read ⊢
    rw [integer?_of_digit digit read, value]
    exact bounded?_toInt number

end Numeral
end SqlEngine
