import SqlEngine.Proofs.Characters
import SqlEngine.Proofs.Decimals
import SqlEngine.Proofs.Scanning
import SqlEngine.Value

/-!
# Reading back reals

The literal of a finite real consists of a sign, digits, a point and digits.  It is read back as the
real, with its sign, since the digits of a magnitude read back as this magnitude.
-/

namespace SqlEngine
namespace Binary64

open Scan

/-- A word does not start with a digit. -/
theorem anyCase_of_digit {word : String} {letter : Char} {letters : List Char}
    (split : word.toList = letter :: letters) (other : letter.isDigit = false) {c : Char}
    (digit : c.isDigit = true) (rest : List Char) : anyCase word (c :: rest) = .miss := by
  have differ : (c == letter) = false := by
    refine beq_eq_false_iff_ne.mpr ?_
    rintro rfl
    rw [other] at digit
    contradiction
  rw [anyCase, split, strip?, Text.toLower_of_digit digit, differ]
  rfl

/-- Digits with a point among them are read as a decimal. -/
theorem decimalText_append {whole fraction : List Char}
    (whole_digits : ∀ c ∈ whole, c.isDigit = true) (nonempty : whole ≠ [])
    (fraction_digits : ∀ c ∈ fraction, c.isDigit = true) :
    decimalText (whole ++ '.' :: fraction) =
      .done (⟨Numeral.value (whole ++ fraction), -(fraction.length : Int)⟩, []) := by
  have front : span Char.isDigit (whole ++ '.' :: fraction) = .done (whole, '.' :: fraction) :=
    span_append whole_digits (by rintro _ ⟨⟩; decide)
  have back : span Char.isDigit (fraction ++ []) = .done (fraction, []) :=
    span_append fraction_digits fun _ contra => nomatch contra
  rw [List.append_nil] at back
  have point : ((Scan.char '.' *> span Char.isDigit) <|> pure []) ('.' :: fraction) =
      .done (fraction, []) :=
    orElse_of_done ((seqRight_of_done (char_self '.' fraction)).trans back)
  have no_exponent : (exponentPart <|> pure 0) [] = .done ((0 : Int), []) := rfl
  have some_digit : (whole.isEmpty && fraction.isEmpty) = false := by
    rw [List.isEmpty_eq_false_iff.mpr nonempty, Bool.false_and]
  unfold decimalText
  rw [bind_of_done front, bind_of_done point]
  simp only [some_digit, Bool.false_eq_true, if_false]
  refine (bind_of_done no_exponent).trans ?_
  rw [Int.zero_sub]
  rfl

/-- The text of a decimal is read as the nearest number, with the sign of the text. -/
theorem ofText?_of_point (negative : Bool) {whole fraction : List Char}
    (whole_digits : ∀ c ∈ whole, c.isDigit = true) (nonempty : whole ≠ [])
    (fraction_digits : ∀ c ∈ fraction, c.isDigit = true) :
    ofText? (String.ofList ((if negative then ['-'] else []) ++ (whole ++ '.' :: fraction))) =
      some (signed negative
        (Rank.read ⟨Numeral.value (whole ++ fraction), -(fraction.length : Int)⟩)) := by
  have decimal := decimalText_append whole_digits nonempty fraction_digits
  obtain ⟨c, digits, split⟩ := List.exists_cons_of_ne_nil nonempty
  have digit : c.isDigit = true := whole_digits c (split ▸ List.mem_cons_self)
  rw [split, List.cons_append] at decimal ⊢
  generalize digits ++ '.' :: fraction = rest at decimal ⊢
  have sign : ((Scan.char '-' *> pure true) <|> (Scan.char '+' *> pure false) <|> pure false)
      ((if negative then ['-'] else []) ++ c :: rest) = .done (negative, c :: rest) := by
    have unsigned {other : Char} (no_digit : other.isDigit = false) :
        Scan.char other (c :: rest) = .miss := by
      refine char_of_ne ?_ rest
      rintro rfl
      rw [no_digit] at digit
      contradiction
    cases negative with
    | true => rfl
    | false =>
        refine (orElse_of_miss (seqRight_of_miss (unsigned (by decide)))).trans ?_
        exact orElse_of_miss (seqRight_of_miss (unsigned (by decide)))
  refine Scan.whole_eq_some.mpr ?_
  rw [String.toList_ofList, scan, bind_of_done sign,
    orElse_of_miss (seqRight_of_miss (anyCase_of_digit rfl (by decide) digit rest)),
    orElse_of_miss (seqRight_of_miss (anyCase_of_digit rfl (by decide) digit rest)),
    orElse_of_miss (seqRight_of_miss (anyCase_of_digit rfl (by decide) digit rest)),
    bind_of_done decimal]
  rfl

/-! ## Literals -/

namespace Rank

/-- A fraction of one zero changes nothing. -/
theorem read_append_zero (decimal : Decimal) {power : Nat}
    (whole : decimal.exponent = .ofNat power) :
    read ⟨decimal.digits * 10 ^ power * 10, -1⟩ = read decimal := by
  obtain ⟨digits, exponent⟩ := decimal
  obtain rfl : exponent = .ofNat power := whole
  have tenth : read ⟨digits * 10 ^ power * 10 / 10, -1 + 1⟩ =
      read ⟨digits * 10 ^ power * 10, -1⟩ :=
    @read_tenth ⟨digits * 10 ^ power * 10, -1⟩ (Nat.mul_mod_left _ 10)
  rw [← tenth, Nat.mul_div_cancel _ (by decide)]
  change ofDecimal (digits * 10 ^ power) (.ofNat 0) = ofDecimal digits (.ofNat power)
  rw [ofDecimal_ofNat, ofDecimal_ofNat, Nat.pow_zero, Nat.mul_one]

/-- The text of a finite magnitude, with a fraction if it has none, in front of and behind its
point: the digits read back as the magnitude. -/
theorem exists_point {rank : Rank} (finite : rank.val ≠ infinityRank) :
    ∃ whole fraction,
      (if '.' ∈ rank.text then rank.text else rank.text ++ ['.', '0']) = whole ++ '.' :: fraction ∧
      (∀ c ∈ whole ++ fraction, c.isDigit = true) ∧ whole ≠ [] ∧ fraction ≠ [] ∧
      read ⟨Numeral.value (whole ++ fraction), -(fraction.length : Int)⟩ = rank := by
  by_cases zero : rank.val = 0
  · refine ⟨['0'], ['0'], ?_, List.all_eq_true.mp (by decide), by decide, by decide, ?_⟩
    · rw [text_of_zero zero]
      rfl
    · change ofDecimal 0 (.negSucc 0) = rank
      rw [ofDecimal_negSucc, Nat.zero_mul, nearest_of_small (by decide)]
      exact Fin.ext zero.symm
  · rw [text_of_finite zero finite]
    have reads := read_shortest rank
    generalize rank.shortest = decimal at reads
    obtain ⟨digits, power | places⟩ := decimal
    -- A whole number gets a fraction of one zero, any other has a fraction of its own.
    · obtain ⟨plain, value⟩ := Decimal.positional_ofNat digits power
      have no_point : '.' ∉ Decimal.positional ⟨digits, .ofNat power⟩ := fun member =>
        absurd (plain '.' member) (by decide)
      refine ⟨_, ['0'], if_neg no_point, ?_, ?_, by decide, ?_⟩
      · exact List.forall_mem_append.mpr ⟨plain, List.all_eq_true.mp (by decide)⟩
      · exact List.append_ne_nil_of_left_ne_nil Nat.toDigits_ne_nil _
      · rw [show ['0'] = List.replicate 1 '0' from rfl, Numeral.value_append_zeros, value]
        exact (read_append_zero ⟨digits, .ofNat power⟩ rfl).trans reads
    · obtain ⟨whole, fraction, split, plain, length, value⟩ :=
        Decimal.positional_negSucc digits places
      have long : places + 3 ≤ (Decimal.positional ⟨digits, .negSucc places⟩).length := by
        have := Numeral.le_length_padded (places + 2) digits
        simp only [Decimal.positional, List.length_append, List.length_take, List.length_cons,
          List.length_drop]
        omega
      rw [split, List.length_append, List.length_cons, length] at long
      refine ⟨whole, fraction, ?_, plain, ?_, ?_, ?_⟩
      · rw [split, if_pos (by simp)]
      · rintro rfl
        simp only [List.length_nil] at long
        omega
      · rintro rfl
        contradiction
      · rw [value, length]
        exact reads

end Rank

/-- The literal of a finite real is a sign, digits, a point and digits, and these are read back as
the real. -/
theorem exists_realLiteral (negative : Bool) {rank : Rank} (finite : rank.val ≠ infinityRank) :
    ∃ whole fraction,
      (Value.realLiteral (signed negative rank)).toList =
        (if negative then ['-'] else []) ++ (whole ++ '.' :: fraction) ∧
      (∀ c ∈ whole ++ fraction, c.isDigit = true) ∧ whole ≠ [] ∧ fraction ≠ [] ∧
      ofText? (Value.realLiteral (signed negative rank)) = some (signed negative rank) := by
  obtain ⟨whole, fraction, split, plain, whole_some, fraction_some, reads⟩ :=
    Rank.exists_point finite
  have literal : Value.realLiteral (signed negative rank) =
      String.ofList ((if negative then ['-'] else []) ++ (whole ++ '.' :: fraction)) := by
    have no_letter : 'e' ∉ rank.text := rank.notMem_text (by decide) (by decide) (by decide)
    have chars : (signed negative rank).chars = (if negative then ['-'] else []) ++ rank.text := by
      cases negative <;> rfl
    have only_point : ((signed negative rank).chars.contains '.' ||
        (signed negative rank).chars.contains 'e') = decide ('.' ∈ rank.text) := by
      rw [chars]
      cases negative <;> simp [no_letter]
    rw [← split, Value.realLiteral]
    rw [only_point, chars]
    by_cases point : '.' ∈ rank.text
    · rw [if_pos (decide_eq_true point), if_pos point]
    · rw [if_neg (by simpa using point), if_neg point, List.append_assoc]
  obtain ⟨whole_digits, fraction_digits⟩ := List.forall_mem_append.mp plain
  have chars := congrArg String.toList literal
  rw [String.toList_ofList] at chars
  refine ⟨whole, fraction, chars, plain, whole_some, fraction_some, ?_⟩
  rw [literal, ofText?_of_point negative whole_digits whole_some fraction_digits, reads]

end Binary64
end SqlEngine
