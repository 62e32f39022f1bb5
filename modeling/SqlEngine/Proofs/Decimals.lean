import SqlEngine.Binary64.Text
import SqlEngine.Proofs.Numerals
import SqlEngine.Proofs.Rounding
import Mathlib.Data.List.Basic

/-!
# Decimals of binary64 numbers

A decimal is read by its value: the short cuts for exponents far out of range change nothing, and
neither do zeros at the end of its digits.  So the digits that a magnitude is written with read back
as the same magnitude, and no two magnitudes are written with the same text.
-/

namespace SqlEngine
namespace Binary64.Rank

private theorem two_pow_le_ten_pow (power : Nat) : 2 ^ (3 * power) ≤ 10 ^ power := by
  rw [pow_mul]
  exact Nat.pow_le_pow_left (by decide) power

theorem ofDecimal_ofNat (digits power : Nat) :
    ofDecimal digits (.ofNat power) = nearest (digits * 10 ^ power * unitsOfOne) 1 := by
  change (if digits = 0 then ofNat 0 else if 400 < power then ofNat infinityRank else
    nearest (digits * 10 ^ power * unitsOfOne) 1) = _
  by_cases zero : digits = 0
  · rw [if_pos zero, zero, Nat.zero_mul, Nat.zero_mul]
    exact (nearest_of_small (by decide)).symm
  · rw [if_neg zero]
    by_cases far : 400 < power
    · rw [if_pos far]
      obtain ⟨exponent, above, unit⟩ := exists_unitsOfOne_eq
      have large : 2 ^ (3 * power + (exponent + 1)) * 1 ≤ digits * 10 ^ power * unitsOfOne := by
        rw [Nat.mul_one, pow_add, unit]
        refine Nat.mul_le_mul_right _ ((two_pow_le_ten_pow power).trans ?_)
        exact Nat.le_mul_of_pos_left _ (Nat.pos_of_ne_zero zero)
      exact (nearest_of_large Nat.one_pos (by omega) large).symm
    · rw [if_neg far]

theorem ofDecimal_negSucc (digits power : Nat) :
    ofDecimal digits (.negSucc power) = nearest (digits * unitsOfOne) (10 ^ (power + 1)) := by
  change (if digits.log2 + 400 < power + 1 then ofNat 0 else
    nearest (digits * unitsOfOne) (10 ^ (power + 1))) = _
  by_cases far : digits.log2 + 400 < power + 1
  · rw [if_pos far]
    obtain ⟨exponent, above, unit⟩ := exists_unitsOfOne_eq
    have small : 2 * (digits * unitsOfOne) < 10 ^ (power + 1) :=
      calc 2 * (digits * unitsOfOne)
          < 2 * (2 ^ (digits.log2 + 1) * 2 ^ (exponent + 1)) := by
            rw [unit]
            exact Nat.mul_lt_mul_of_pos_left
              (Nat.mul_lt_mul_of_pos_right Nat.lt_log2_self (Nat.two_pow_pos _)) (by decide)
        _ = 2 ^ (1 + (digits.log2 + 1 + (exponent + 1))) := by
            rw [pow_add 2 1, pow_add 2 (digits.log2 + 1), pow_one]
        _ ≤ 2 ^ (3 * (power + 1)) := Nat.pow_le_pow_right (by decide) (by omega)
        _ ≤ 10 ^ (power + 1) := two_pow_le_ten_pow (power + 1)
    exact (nearest_of_small small).symm
  · rw [if_neg far]

/-- A zero at the end of the digits does not matter. -/
theorem read_tenth {decimal : Decimal} (divides : decimal.digits % 10 = 0) :
    read ⟨decimal.digits / 10, decimal.exponent + 1⟩ = read decimal := by
  obtain ⟨digits, exponent⟩ := decimal
  have split : digits / 10 * 10 = digits := Nat.div_mul_cancel (Nat.dvd_of_mod_eq_zero divides)
  unfold read
  dsimp only
  rcases exponent with power | power
  · change ofDecimal (digits / 10) (.ofNat (power + 1)) = ofDecimal digits (.ofNat power)
    rw [ofDecimal_ofNat, ofDecimal_ofNat, pow_succ', ← Nat.mul_assoc, split]
  · have scaled (power : Nat) : nearest (digits / 10 * unitsOfOne) (10 ^ power) =
        nearest (digits * unitsOfOne) (10 ^ (power + 1)) := by
      rw [← nearest_mul (by decide : 0 < 10), Nat.mul_right_comm, split, ← pow_succ]
    cases power with
    | zero =>
        change ofDecimal (digits / 10) (.ofNat 0) = ofDecimal digits (.negSucc 0)
        rw [ofDecimal_ofNat, ofDecimal_negSucc, ← scaled, pow_zero, Nat.mul_one]
    | succ power =>
        change ofDecimal (digits / 10) (.negSucc power) = ofDecimal digits (.negSucc (power + 1))
        rw [ofDecimal_negSucc, ofDecimal_negSucc, scaled]

theorem read_strip (decimal : Decimal) : read decimal.strip = read decimal := by
  induction decimal using Decimal.strip.induct with
  | case1 decimal shorter induction =>
      rw [Decimal.strip, if_pos shorter, induction, read_tenth shorter.2]
  | case2 decimal done => rw [Decimal.strip, if_neg done]

theorem read_allDigits (rank : Rank) : read rank.allDigits = rank := by
  have exact (exponent : Nat) (unit : unitsOfOne = 2 ^ (exponent + 1)) :
      ofDecimal (rank.units * 5 ^ (exponent + 1)) (.negSucc exponent) = rank := by
    have scaled : rank.units * 5 ^ (exponent + 1) * unitsOfOne =
        rank.units * 10 ^ (exponent + 1) := by
      rw [unit, Nat.mul_assoc, ← Nat.mul_pow]
    rw [ofDecimal_negSucc, scaled, ← Nat.one_mul (10 ^ (exponent + 1)), ← Nat.mul_assoc]
    rw [nearest_mul (Nat.pow_pos (by decide)), Nat.mul_one, nearest_units]
  exact exact 1073 rfl

theorem read_of_around? {rank : Rank} {exponent : Int} {decimal : Decimal}
    (found : rank.around? exponent = some decimal) : read decimal = rank := by
  simp only [around?] at found
  split at found
  · rename_i below above
    split at found
    · obtain rfl := Option.some.inj found
      exact of_decide_eq_true below
    · obtain rfl := Option.some.inj found
      exact of_decide_eq_true above
  · rename_i below _
    obtain rfl := Option.some.inj found
    exact of_decide_eq_true below
  · rename_i _ above
    obtain rfl := Option.some.inj found
    exact of_decide_eq_true above
  · contradiction

/-- The digits that a magnitude is written with read back as the magnitude. -/
theorem read_shortest (rank : Rank) : read rank.shortest = rank := by
  simp only [shortest]
  rw [read_strip]
  generalize decimalPlace rank.units unitsOfOne = place
  cases found : (List.range 17).findSome? fun (count : Nat) =>
      rank.around? (place - (count + 1 : Nat)) with
  | none => exact read_allDigits rank
  | some decimal =>
      obtain ⟨count, -, here⟩ := List.exists_of_findSome?_eq_some found
      exact read_of_around? here

end Binary64.Rank

namespace Decimal

/-- No zeros are left at the end of the digits. -/
theorem mod_ne_zero_of_strip (decimal : Decimal) :
    decimal.strip.digits = 0 ∨ decimal.strip.digits % 10 ≠ 0 := by
  induction decimal using strip.induct with
  | case1 decimal shorter induction =>
      rw [strip, if_pos shorter]
      exact induction
  | case2 decimal done =>
      rw [strip, if_neg done]
      omega

private theorem point_notMem {chars : List Char} (digits : ∀ c ∈ chars, c.isDigit = true) :
    '.' ∉ chars :=
  fun member => absurd (digits '.' member) (by decide)

/-- Without a fraction, a decimal is written with digits that stand for its value. -/
theorem positional_ofNat (digits power : Nat) :
    (∀ c ∈ positional ⟨digits, .ofNat power⟩, c.isDigit = true) ∧
      Numeral.value (positional ⟨digits, .ofNat power⟩) = digits * 10 ^ power := by
  refine ⟨fun c member => ?_, ?_⟩
  · rcases List.mem_append.mp member with digit | zero
    · exact Nat.isDigit_of_mem_toDigits (by decide) (by decide) digit
    · rw [List.eq_of_mem_replicate zero]
      decide
  · change Numeral.value (Nat.toDigits 10 digits ++ List.replicate power '0') = _
    rw [Numeral.value_append_zeros, Numeral.value_toDigits]

/-- With a fraction, a decimal is written with its digits, of which as many stand behind the point
as there are places. -/
theorem positional_negSucc (digits places : Nat) :
    ∃ whole fraction, positional ⟨digits, .negSucc places⟩ = whole ++ '.' :: fraction ∧
      (∀ c ∈ whole ++ fraction, c.isDigit = true) ∧ fraction.length = places + 1 ∧
      Numeral.value (whole ++ fraction) = digits := by
  have long : places + 2 ≤ (Numeral.padded (places + 2) digits).length :=
    Numeral.le_length_padded (places + 2) digits
  refine ⟨_, _, rfl, ?_, ?_, ?_⟩
  · rw [List.take_append_drop]
    exact fun c => Numeral.isDigit_of_mem_padded
  · dsimp only
    rw [List.length_drop]
    omega
  · rw [List.take_append_drop, Numeral.value_padded]

private theorem power_le_of_mul_eq {left right power more : Nat} (bare : left % 10 ≠ 0)
    (same : left * 10 ^ power = right * 10 ^ more) : more ≤ power := by
  by_contra less
  obtain ⟨rest, rfl⟩ := Nat.exists_eq_add_of_lt (Nat.lt_of_not_le less)
  have left_eq : left = right * 10 ^ rest * 10 := by
    apply Nat.eq_of_mul_eq_mul_right (Nat.pow_pos (by decide) : 0 < 10 ^ power)
    rw [same]
    ring
  omega

/-- Decimals without zeros at the end of their digits are written in different ways. -/
theorem positional_inj {left right : Decimal} (left_bare : left.digits % 10 ≠ 0)
    (right_bare : right.digits % 10 ≠ 0) (same : left.positional = right.positional) :
    left = right := by
  obtain ⟨digits, exponent⟩ := left
  obtain ⟨digits', exponent'⟩ := right
  rcases exponent with power | places <;> rcases exponent' with power' | places'
  · obtain ⟨-, value⟩ := positional_ofNat digits power
    obtain ⟨-, value'⟩ := positional_ofNat digits' power'
    have equal : digits * 10 ^ power = digits' * 10 ^ power' := by rw [← value, ← value', same]
    obtain rfl : power = power' := Nat.le_antisymm
      (power_le_of_mul_eq right_bare equal.symm) (power_le_of_mul_eq left_bare equal)
    obtain rfl := Nat.eq_of_mul_eq_mul_right (Nat.pow_pos (by decide)) equal
    rfl
  · obtain ⟨plain, -⟩ := positional_ofNat digits power
    obtain ⟨whole, fraction, split, -⟩ := positional_negSucc digits' places'
    rw [same, split] at plain
    exact absurd (plain '.' (by simp)) (by decide)
  · obtain ⟨plain, -⟩ := positional_ofNat digits' power'
    obtain ⟨whole, fraction, split, -⟩ := positional_negSucc digits places
    rw [← same, split] at plain
    exact absurd (plain '.' (by simp)) (by decide)
  · obtain ⟨whole, fraction, split, plain, length, value⟩ := positional_negSucc digits places
    obtain ⟨whole', fraction', split', plain', length', value'⟩ :=
      positional_negSucc digits' places'
    rw [split, split'] at same
    have apart := (List.append_cons_inj_of_notMem
      (point_notMem fun c member => plain c (List.mem_append_left _ member))
      (point_notMem fun c member => plain c (List.mem_append_right _ member))).mp same
    obtain ⟨rfl, -, rfl⟩ := apart
    obtain rfl : places = places' := by omega
    obtain rfl : digits = digits' := value.symm.trans value'
    rfl

theorem isDigit_or_point_of_mem {decimal : Decimal} {c : Char} (member : c ∈ decimal.positional) :
    c.isDigit = true ∨ c = '.' := by
  obtain ⟨digits, power | places⟩ := decimal
  · exact .inl ((positional_ofNat digits power).1 c member)
  · obtain ⟨whole, fraction, split, plain, -⟩ := positional_negSucc digits places
    rw [split] at member
    rcases List.mem_append.mp member with front | back
    · exact .inl (plain c (List.mem_append_left _ front))
    · rcases List.mem_cons.mp back with point | back
      · exact .inr point
      · exact .inl (plain c (List.mem_append_right _ back))

theorem positional_ne_zero {decimal : Decimal} (bare : decimal.digits % 10 ≠ 0) :
    decimal.positional ≠ ['0'] := by
  intro same
  obtain ⟨digits, power | places⟩ := decimal
  · obtain ⟨-, value⟩ := positional_ofNat digits power
    rw [same] at value
    have positive : 0 < digits * 10 ^ power :=
      Nat.mul_pos (Nat.pos_of_ne_zero fun zero => bare (by simp [zero])) (Nat.pow_pos (by decide))
    exact absurd value positive.ne
  · obtain ⟨whole, fraction, split, -⟩ := positional_negSucc digits places
    rw [same] at split
    have point : '.' ∈ ['0'] := split ▸ List.mem_append_right _ List.mem_cons_self
    exact absurd point (by decide)

/-- A decimal without zeros at the end of its digits is not written with a fraction of one zero. -/
theorem positional_ne_append_zero {decimal : Decimal} (bare : decimal.digits % 10 ≠ 0)
    (front : List Char) : decimal.positional ≠ front ++ ['.', '0'] := by
  intro same
  obtain ⟨digits, power | places⟩ := decimal
  · obtain ⟨plain, -⟩ := positional_ofNat digits power
    rw [same] at plain
    exact absurd (plain '.' (by simp)) (by decide)
  · obtain ⟨whole, fraction, split, plain, -, value⟩ := positional_negSucc digits places
    rw [split] at same
    obtain ⟨rfl, -, rfl⟩ := (List.append_cons_inj_of_notMem
      (point_notMem fun c member => plain c (List.mem_append_left _ member))
      (point_notMem fun c member => plain c (List.mem_append_right _ member))).mp same
    have tenfold : digits = Numeral.value whole * 10 ^ 1 := by
      rw [← value, ← Numeral.value_append_zeros]
      rfl
    dsimp only at bare
    omega

end Decimal

namespace Binary64.Rank

theorem digits_shortest_ne_zero {rank : Rank} (nonzero : rank.val ≠ 0) :
    rank.shortest.digits ≠ 0 := by
  intro none
  have zero : read rank.shortest = ofNat 0 := by
    unfold read
    rw [none]
    rcases rank.shortest.exponent with power | power
    · rw [ofDecimal_ofNat, Nat.zero_mul, Nat.zero_mul]
      exact nearest_of_small (by decide)
    · rw [ofDecimal_negSucc, Nat.zero_mul]
      exact nearest_of_small (Nat.pow_pos (by decide))
  rw [read_shortest] at zero
  exact nonzero (congrArg Fin.val zero)

/-- The digits of a magnitude other than zero do not end in a zero. -/
theorem shortest_bare {rank : Rank} (nonzero : rank.val ≠ 0) : rank.shortest.digits % 10 ≠ 0 :=
  (Decimal.mod_ne_zero_of_strip _).resolve_left (digits_shortest_ne_zero nonzero)

theorem text_of_finite {rank : Rank} (nonzero : rank.val ≠ 0) (finite : rank.val ≠ infinityRank) :
    rank.text = rank.shortest.positional := by
  rw [text, if_neg nonzero, if_neg finite]

theorem text_of_zero {rank : Rank} (zero : rank.val = 0) : rank.text = ['0'] := by
  rw [text, if_pos zero]

theorem text_of_infinity {rank : Rank} (infinite : rank.val = infinityRank) :
    rank.text = ['i', 'n', 'f'] := by
  rw [text, if_neg (by rw [infinite]; decide), if_pos infinite]
  rfl

/-- The text of a finite magnitude consists of digits and points. -/
theorem isDigit_or_point_of_mem {rank : Rank} (finite : rank.val ≠ infinityRank) {c : Char}
    (member : c ∈ rank.text) : c.isDigit = true ∨ c = '.' := by
  by_cases zero : rank.val = 0
  · rw [text_of_zero zero] at member
    obtain rfl := List.mem_singleton.mp member
    exact .inl rfl
  · rw [text_of_finite zero finite] at member
    exact Decimal.isDigit_or_point_of_mem member

/-- No letter but those of the word for infinity, and no sign, is in the text of a magnitude. -/
theorem notMem_text (rank : Rank) {c : Char} (other : c.isDigit = false) (point : c ≠ '.')
    (word : c ∉ ['i', 'n', 'f']) : c ∉ rank.text := by
  by_cases infinite : rank.val = infinityRank
  · rw [text_of_infinity infinite]
    exact word
  · intro member
    rcases isDigit_or_point_of_mem infinite member with digit | same
    · rw [other] at digit
      contradiction
    · exact point same

/-- Different magnitudes are written with different texts. -/
theorem text_inj {left right : Rank} (same : left.text = right.text) : left = right := by
  have infinite {left right : Rank} (here : left.val = infinityRank)
      (same : left.text = right.text) : left = right := by
    by_contra differ
    have there : right.val ≠ infinityRank := fun there => differ (Fin.ext (here.trans there.symm))
    have letter : 'i' ∈ right.text := by
      rw [← same, text_of_infinity here]
      exact List.mem_cons_self
    rcases isDigit_or_point_of_mem there letter with digit | point
    · exact absurd digit (by decide)
    · exact absurd point (by decide)
  by_cases left_infinite : left.val = infinityRank
  · exact infinite left_infinite same
  by_cases right_infinite : right.val = infinityRank
  · exact (infinite right_infinite same.symm).symm
  by_cases left_zero : left.val = 0
  · by_cases right_zero : right.val = 0
    · exact Fin.ext (left_zero.trans right_zero.symm)
    · rw [text_of_zero left_zero, text_of_finite right_zero right_infinite] at same
      exact absurd same.symm (Decimal.positional_ne_zero (shortest_bare right_zero))
  · rw [text_of_finite left_zero left_infinite] at same
    by_cases right_zero : right.val = 0
    · rw [text_of_zero right_zero] at same
      exact absurd same (Decimal.positional_ne_zero (shortest_bare left_zero))
    · rw [text_of_finite right_zero right_infinite] at same
      have digits : left.shortest = right.shortest :=
        Decimal.positional_inj (shortest_bare left_zero) (shortest_bare right_zero) same
      rw [← read_shortest left, digits, read_shortest]

/-- The text of a magnitude does not end in a fraction of one zero. -/
theorem text_ne_append_zero (rank : Rank) (front : List Char) :
    rank.text ≠ front ++ ['.', '0'] := by
  by_cases infinite : rank.val = infinityRank
  · rw [text_of_infinity infinite]
    intro same
    have point : '.' ∈ ['i', 'n', 'f'] := same ▸ by simp
    exact absurd point (by decide)
  · by_cases zero : rank.val = 0
    · rw [text_of_zero zero]
      intro same
      have point : '.' ∈ ['0'] := same ▸ by simp
      exact absurd point (by decide)
    · rw [text_of_finite zero infinite]
      exact Decimal.positional_ne_append_zero (shortest_bare zero) front

end Binary64.Rank
end SqlEngine
