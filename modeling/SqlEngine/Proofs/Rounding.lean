import SqlEngine.Binary64.Basic
import Mathlib.Tactic.Ring
import Mathlib.Tactic.NormNum

/-!
# Rounding to binary64

The nearest rank depends only on the value of a quotient, a magnitude of the format is its own
rounding, and the quotients that are cut off as too large or too small round to infinity and to
zero.  So whole numbers below 2^53 are magnitudes, and larger ones are rounded to larger ones.
-/

namespace SqlEngine

theorem roundQuotient_mul {factor : Nat} (positive : 0 < factor) (numerator denominator : Nat) :
    roundQuotient (numerator * factor) (denominator * factor) =
      roundQuotient numerator denominator := by
  have twice : 2 * (numerator % denominator * factor) = 2 * (numerator % denominator) * factor := by
    ring
  simp only [roundQuotient, Nat.mul_div_mul_right _ _ positive, Nat.mul_mod_mul_right, twice,
    Nat.mul_lt_mul_right positive]

theorem roundQuotient_exact {denominator : Nat} (positive : 0 < denominator) (whole : Nat) :
    roundQuotient (whole * denominator) denominator = whole := by
  simp [roundQuotient, Nat.mul_div_cancel _ positive, positive]

theorem div_le_roundQuotient (numerator denominator : Nat) :
    numerator / denominator ≤ roundQuotient numerator denominator := by
  simp only [roundQuotient]
  split
  · exact Nat.le_refl _
  · split <;> omega

theorem roundQuotient_le (numerator denominator : Nat) :
    roundQuotient numerator denominator ≤ numerator / denominator + 1 := by
  simp only [roundQuotient]
  split
  · omega
  · split <;> omega

/-- Rounding keeps the order of quotients. -/
theorem roundQuotient_mono {numerator larger denominator : Nat} (le : numerator ≤ larger) :
    roundQuotient numerator denominator ≤ roundQuotient larger denominator := by
  have floors : numerator / denominator ≤ larger / denominator := Nat.div_le_div_right le
  rcases Nat.lt_or_eq_of_le floors with apart | same
  · exact (roundQuotient_le _ _).trans
      ((Nat.succ_le_of_lt apart).trans (div_le_roundQuotient _ _))
  · have rests : numerator % denominator ≤ larger % denominator := by
      have split := Nat.div_add_mod numerator denominator
      have split' := Nat.div_add_mod larger denominator
      rw [same] at split
      omega
    simp only [roundQuotient, same]
    split_ifs <;> omega

namespace Binary64

/-- One is a power of two in units.  Its exponent has a name here, as the number itself is long. -/
theorem exists_unitsOfOne_eq : ∃ exponent, exponent = 1073 ∧ unitsOfOne = 2 ^ (exponent + 1) :=
  ⟨1073, rfl, rfl⟩

theorem unitsOfOne_pos : 0 < unitsOfOne := by
  obtain ⟨exponent, -, unit⟩ := exists_unitsOfOne_eq
  rw [unit]
  exact Nat.two_pow_pos _

namespace Rank

theorem val_ofNat (rank : Nat) : (ofNat rank).val = min rank infinityRank :=
  rfl

theorem ofNat_val (rank : Rank) : ofNat rank.val = rank := by
  apply Fin.ext
  rw [val_ofNat]
  exact Nat.min_eq_left (Nat.le_of_lt_succ rank.isLt)

/-- Rounding depends on the value of a quotient alone. -/
theorem nearest_mul {factor : Nat} (positive : 0 < factor) (numerator denominator : Nat) :
    nearest (numerator * factor) (denominator * factor) = nearest numerator denominator := by
  have scaled (scale : Nat) : denominator * factor * Nat.pow 2 scale =
      denominator * Nat.pow 2 scale * factor := by ring
  simp only [nearest, Nat.mul_div_mul_right _ _ positive, scaled, roundQuotient_mul positive]

theorem nearest_of_small {numerator denominator : Nat} (small : 2 * numerator < denominator) :
    nearest numerator denominator = ofNat 0 := by
  have below : numerator < denominator := by omega
  have rounded : roundQuotient numerator denominator = 0 := by
    simp only [roundQuotient, Nat.div_eq_of_lt below, Nat.mod_eq_of_lt below, if_pos small]
  simp [nearest, Nat.div_eq_of_lt below, rounded]

/-- From 2^52 on, what is rounded has at least 53 binary digits. -/
private theorem ranksOfPower_le_rounded {numerator denominator : Nat}
    (large : 2 ^ 52 ≤ numerator / denominator) :
    ranksOfPower ≤ roundQuotient numerator
      (denominator * Nat.pow 2 ((numerator / denominator).log2 - 52)) := by
  have nonzero : numerator / denominator ≠ 0 := (Nat.lt_of_lt_of_le (by decide) large).ne'
  have digits : 52 ≤ (numerator / denominator).log2 := (Nat.le_log2 nonzero).mpr large
  refine Nat.le_trans ?_ (div_le_roundQuotient _ _)
  rw [← Nat.div_div_eq_div_mul, Nat.pow_eq, Nat.le_div_iff_mul_le (Nat.two_pow_pos _)]
  calc ranksOfPower * 2 ^ ((numerator / denominator).log2 - 52)
      = 2 ^ (52 + ((numerator / denominator).log2 - 52)) := by rw [pow_add]; rfl
    _ = 2 ^ (numerator / denominator).log2 := by rw [Nat.add_sub_cancel' digits]
    _ ≤ numerator / denominator := Nat.log2_self_le nonzero

/-- A quotient that reaches a power of two has a rank that reaches the rank of that power. -/
theorem le_val_nearest {numerator denominator power : Nat} (within : power ≤ 2046)
    (large : 2 ^ (52 + power) ≤ numerator / denominator) :
    (power + 1) * ranksOfPower ≤ (nearest numerator denominator).val := by
  have nonzero : numerator / denominator ≠ 0 :=
    (Nat.lt_of_lt_of_le (Nat.two_pow_pos _) large).ne'
  have digits : 52 + power ≤ (numerator / denominator).log2 := (Nat.le_log2 nonzero).mpr large
  have mantissa := ranksOfPower_le_rounded
    ((Nat.pow_le_pow_right (by decide) (Nat.le_add_right 52 power)).trans large)
  change _ ≤ min _ infinityRank
  rw [Nat.le_min]
  constructor
  · rw [Nat.succ_mul]
    exact Nat.add_le_add (Nat.mul_le_mul_right _ (by omega)) mantissa
  · exact Nat.mul_le_mul_right _ (by omega)

theorem nearest_of_large {numerator denominator exponent : Nat} (positive : 0 < denominator)
    (far : 2098 ≤ exponent) (large : 2 ^ exponent * denominator ≤ numerator) :
    nearest numerator denominator = ofNat infinityRank := by
  have quotient {power : Nat} (within : power ≤ 2046) :
      2 ^ (52 + power) ≤ numerator / denominator :=
    (Nat.pow_le_pow_right (by decide) (by omega)).trans
      ((Nat.le_div_iff_mul_le positive).mpr large)
  have reached : infinityRank ≤ (nearest numerator denominator).val :=
    le_val_nearest (Nat.le_refl 2046) (quotient (Nat.le_refl 2046))
  apply Fin.ext
  rw [val_ofNat, Nat.min_self]
  exact Nat.le_antisymm (Nat.le_of_lt_succ (nearest numerator denominator).isLt) reached

theorem units_of_small {rank : Rank} (small : rank.val < ranksOfPower) : rank.units = rank.val := by
  rw [units, if_pos small]

theorem units_of_large {rank : Rank} (large : ranksOfPower ≤ rank.val) :
    rank.units = (ranksOfPower + rank.val % ranksOfPower) * 2 ^ (rank.val / ranksOfPower - 1) := by
  rw [units, if_neg (Nat.not_lt.mpr large)]
  rfl

/-- A magnitude is its own rounding. -/
theorem nearest_units (rank : Rank) : nearest rank.units 1 = rank := by
  have ranks : ranksOfPower = 2 ^ 52 := rfl
  rw [← ofNat_val rank]
  by_cases small : rank.val < ranksOfPower
  · have units : (ofNat rank.val).units = rank.val := by rw [ofNat_val, units_of_small small]
    have log : rank.val.log2 - 52 = 0 := by
      rcases Nat.eq_zero_or_pos rank.val with zero | positive
      · simp [zero]
      · have := (Nat.log2_lt positive.ne').mpr (ranks ▸ small)
        omega
    rw [units]
    simp only [nearest, Nat.div_one, log]
    have whole : roundQuotient rank.val (1 * Nat.pow 2 0) = rank.val := by
      simpa using roundQuotient_exact Nat.one_pos rank.val
    rw [whole, Nat.zero_mul, Nat.zero_add]
  · generalize power : rank.val / ranksOfPower = binade
    generalize rest : rank.val % ranksOfPower = fraction
    have split : ranksOfPower * binade + fraction = rank.val := by
      rw [← power, ← rest]
      exact Nat.div_add_mod _ _
    have above : 1 ≤ binade := power ▸ (Nat.one_le_div_iff (by decide)).mpr (Nat.not_lt.mp small)
    have below : fraction < 2 ^ 52 := rest ▸ Nat.mod_lt _ (by decide)
    have units : (ofNat rank.val).units = (2 ^ 52 + fraction) * 2 ^ (binade - 1) := by
      rw [ofNat_val, units_of_large (Nat.not_lt.mp small), power, rest]
      rfl
    have log : ((2 ^ 52 + fraction) * 2 ^ (binade - 1)).log2 - 52 = binade - 1 := by
      have exact_log : ((2 ^ 52 + fraction) * 2 ^ (binade - 1)).log2 = 52 + (binade - 1) := by
        rw [Nat.log2_eq_iff (Nat.mul_pos (by omega) (Nat.two_pow_pos _)).ne']
        constructor
        · rw [pow_add]
          exact Nat.mul_le_mul_right _ (by omega)
        · rw [Nat.add_right_comm, pow_add]
          exact Nat.mul_lt_mul_of_pos_right (by omega) (Nat.two_pow_pos _)
      omega
    have whole : roundQuotient ((2 ^ 52 + fraction) * 2 ^ (binade - 1))
        (1 * Nat.pow 2 (binade - 1)) = 2 ^ 52 + fraction := by
      rw [Nat.one_mul, Nat.pow_eq]
      exact roundQuotient_exact (Nat.two_pow_pos _) _
    rw [units]
    simp only [nearest, Nat.div_one, log, whole]
    congr 1
    calc (binade - 1) * ranksOfPower + (2 ^ 52 + fraction)
        = (binade - 1) * ranksOfPower + ranksOfPower + fraction := (Nat.add_assoc _ _ _).symm
      _ = (binade - 1 + 1) * ranksOfPower + fraction := by rw [Nat.succ_mul]
      _ = ranksOfPower * binade + fraction := by rw [Nat.sub_add_cancel above, Nat.mul_comm]
      _ = rank.val := split

/-- Up to the next power of two, what is rounded has at most 53 binary digits. -/
private theorem rounded_le_ranksOfPower (numerator denominator : Nat) :
    roundQuotient numerator (denominator * Nat.pow 2 ((numerator / denominator).log2 - 52)) ≤
      2 * ranksOfPower := by
  have below : numerator / denominator <
      2 * ranksOfPower * 2 ^ ((numerator / denominator).log2 - 52) :=
    calc numerator / denominator
        < 2 ^ ((numerator / denominator).log2 + 1) := Nat.lt_log2_self
      _ ≤ 2 ^ (53 + ((numerator / denominator).log2 - 52)) :=
          Nat.pow_le_pow_right (by decide) (by omega)
      _ = 2 * ranksOfPower * 2 ^ ((numerator / denominator).log2 - 52) := by rw [pow_add]; rfl
  refine (roundQuotient_le _ _).trans (Nat.succ_le_of_lt ?_)
  rwa [← Nat.div_div_eq_div_mul, Nat.pow_eq, Nat.div_lt_iff_lt_mul (Nat.two_pow_pos _)]

/-- The nearest ranks are in the order of the quotients. -/
theorem nearest_mono {numerator larger denominator : Nat} (le : numerator ≤ larger) :
    nearest numerator denominator ≤ nearest larger denominator := by
  have quotients : numerator / denominator ≤ larger / denominator := Nat.div_le_div_right le
  have scales : (numerator / denominator).log2 - 52 ≤ (larger / denominator).log2 - 52 := by
    have logs : (numerator / denominator).log2 ≤ (larger / denominator).log2 := by
      rcases Nat.eq_zero_or_pos (numerator / denominator) with zero | positive
      · simp [zero]
      · exact (Nat.le_log2 (positive.trans_le quotients).ne').mpr
          ((Nat.log2_self_le positive.ne').trans quotients)
    omega
  refine Fin.mk_le_mk.mpr (min_le_min_right _ ?_)
  rcases Nat.lt_or_eq_of_le scales with apart | same
  · -- A smaller power of two leaves room for all its ranks below those of a larger one.
    have large : 2 ^ 52 ≤ larger / denominator := by
      have digits : 52 ≤ (larger / denominator).log2 := by omega
      have nonzero : larger / denominator ≠ 0 := by
        intro zero
        rw [zero] at digits
        contradiction
      exact (Nat.pow_le_pow_right (by decide) digits).trans (Nat.log2_self_le nonzero)
    calc _ ≤ ((numerator / denominator).log2 - 52) * ranksOfPower + 2 * ranksOfPower :=
          Nat.add_le_add_left (rounded_le_ranksOfPower numerator denominator) _
      _ = ((numerator / denominator).log2 - 52 + 1) * ranksOfPower + ranksOfPower := by ring
      _ ≤ _ := Nat.add_le_add (Nat.mul_le_mul_right _ apart) (ranksOfPower_le_rounded large)
  · rw [same]
    exact Nat.add_le_add_left (roundQuotient_mono le) _

/-- Magnitudes are in the order of their ranks. -/
theorem units_le_units {rank larger : Rank} : rank.units ≤ larger.units ↔ rank ≤ larger := by
  constructor
  · intro le
    rw [← nearest_units rank, ← nearest_units larger]
    exact nearest_mono le
  · intro le
    by_contra above
    have ranks : nearest larger.units 1 ≤ nearest rank.units 1 :=
      nearest_mono (Nat.le_of_not_le above)
    rw [nearest_units, nearest_units] at ranks
    obtain rfl : rank = larger := Fin.le_antisymm le ranks
    exact above (Nat.le_refl _)

/-- A quotient that reaches a power of two is not rounded below it. -/
theorem le_units_nearest {numerator denominator power : Nat} (within : power ≤ 2046)
    (large : 2 ^ (52 + power) ≤ numerator / denominator) :
    2 ^ (52 + power) ≤ (nearest numerator denominator).units := by
  have reached := le_val_nearest within large
  have normal : ranksOfPower ≤ (nearest numerator denominator).val :=
    Nat.le_trans (Nat.le_mul_of_pos_left _ (Nat.succ_pos power)) reached
  have binade : power + 1 ≤ (nearest numerator denominator).val / ranksOfPower :=
    (Nat.le_div_iff_mul_le (by decide)).mpr reached
  rw [units_of_large normal, pow_add]
  exact Nat.mul_le_mul (Nat.le_add_right ranksOfPower _)
    (Nat.pow_le_pow_right (by decide) (by omega))

private theorem units_ofNat_of_normal {whole power : Nat} (within : power ≤ 2045)
    (normal : ranksOfPower ≤ whole) (short : whole < 2 ^ 53) :
    (ofNat (power * ranksOfPower + whole)).units = whole * 2 ^ power := by
  obtain ⟨fraction, rfl⟩ := Nat.exists_eq_add_of_le normal
  have below : fraction < ranksOfPower := by
    have ranks : ranksOfPower = 2 ^ 52 := rfl
    omega
  have total : power * ranksOfPower + (ranksOfPower + fraction) =
      fraction + ranksOfPower * (power + 1) := by ring
  have fits : fraction + ranksOfPower * (power + 1) ≤ infinityRank :=
    calc fraction + ranksOfPower * (power + 1)
        ≤ ranksOfPower + ranksOfPower * 2046 :=
          Nat.add_le_add below.le (Nat.mul_le_mul_left _ (by omega))
      _ = infinityRank := rfl
  have value : (ofNat (fraction + ranksOfPower * (power + 1))).val =
      fraction + ranksOfPower * (power + 1) := Nat.min_eq_left fits
  have positive : 0 < ranksOfPower := by decide
  rw [total, units_of_large (by rw [value]; exact Nat.le_add_left_of_le (by omega)), value,
    Nat.add_mul_mod_self_left, Nat.mod_eq_of_lt below, Nat.add_mul_div_left _ _ positive,
    Nat.div_eq_of_lt below, Nat.zero_add, Nat.add_sub_cancel]

/-- A whole number of at most 53 binary digits, with zeros behind them, is a magnitude. -/
theorem exists_units_eq {whole power : Nat} (within : power ≤ 2045) (short : whole < 2 ^ 53) :
    ∃ rank : Rank, rank.units = whole * 2 ^ power := by
  induction power generalizing whole with
  | zero =>
      by_cases normal : ranksOfPower ≤ whole
      · exact ⟨_, units_ofNat_of_normal within normal short⟩
      · have value : (ofNat whole).val = whole :=
          Nat.min_eq_left (Nat.le_trans (Nat.le_of_not_le normal) (by decide))
        refine ⟨ofNat whole, ?_⟩
        rw [units_of_small (by rw [value]; exact Nat.lt_of_not_le normal), value, Nat.pow_zero,
          Nat.mul_one]
  | succ power induction =>
      by_cases normal : ranksOfPower ≤ whole
      · exact ⟨_, units_ofNat_of_normal within normal short⟩
      · have ranks : ranksOfPower = 2 ^ 52 := rfl
        have shorter : whole * 2 < 2 ^ 53 := by omega
        obtain ⟨rank, exact_units⟩ := induction (Nat.le_of_succ_le within) shorter
        exact ⟨rank, by rw [exact_units, Nat.pow_succ', Nat.mul_assoc]⟩

/-- Such a number is not rounded. -/
theorem units_nearest {whole power : Nat} (within : power ≤ 2045) (short : whole < 2 ^ 53) :
    (nearest (whole * 2 ^ power) 1).units = whole * 2 ^ power := by
  obtain ⟨rank, exact_units⟩ := exists_units_eq within short
  rw [← exact_units, nearest_units]

/-- Whole numbers below 2^53 are not rounded. -/
theorem units_of_whole {whole : Nat} (short : whole < 2 ^ 53) :
    (nearest (whole * unitsOfOne) 1).units = whole * unitsOfOne := by
  obtain ⟨exponent, bound, unit⟩ := exists_unitsOfOne_eq
  rw [unit]
  exact units_nearest (by omega) short

/-- Larger whole numbers are not rounded below 2^53. -/
theorem le_units_of_whole {whole : Nat} (long : 2 ^ 53 ≤ whole) :
    2 ^ 53 * unitsOfOne ≤ (nearest (whole * unitsOfOne) 1).units := by
  obtain ⟨exponent, bound, unit⟩ := exists_unitsOfOne_eq
  have power : 2 ^ 53 * unitsOfOne = 2 ^ (52 + (exponent + 2)) := by
    rw [unit, ← pow_add]
    ring
  rw [power]
  refine le_units_nearest (by omega) ?_
  rw [← power, Nat.div_one]
  exact Nat.mul_le_mul_right _ long

theorem units_eq_zero {rank : Rank} : rank.units = 0 ↔ rank.val = 0 := by
  by_cases small : rank.val < ranksOfPower
  · rw [units_of_small small]
  · have large := Nat.le_of_not_lt small
    have positive : 0 < ranksOfPower := by decide
    rw [units_of_large large, Nat.mul_eq_zero]
    have power := Nat.two_pow_pos (rank.val / ranksOfPower - 1)
    omega

end Rank
end Binary64
end SqlEngine
