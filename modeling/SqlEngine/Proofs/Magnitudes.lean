import Mathlib.Algebra.Order.Field.Basic
import Mathlib.Data.Rat.Cast.Order
import SqlEngine.Proofs.Conversions
import SqlEngine.Proofs.Families

/-!
# Integers and reals as numbers

An integer meets a real after it is rounded to the nearest real itself.  Rounding keeps the order,
so that the two are found in the order of the numbers that they stand for, unless the integer is
rounded onto the real without being equal to it, which needs an integer beyond 2^53.
-/

namespace SqlEngine
namespace Binary64

variable {negative : Bool} {rank : Rank}

/-- A magnitude with a sign, in units. -/
def signedUnits (negative : Bool) (rank : Rank) : Int :=
  if negative then -(rank.units : Int) else rank.units

/-- The number that a finite magnitude with a sign stands for. -/
def toRat (negative : Bool) (rank : Rank) : ℚ :=
  signedUnits negative rank / unitsOfOne

/-- The place of the number that is nearest to a whole number of units. -/
def nearestPlace (units : Int) : Int :=
  place (decide (units < 0)) (Rank.nearest units.natAbs 1)

theorem nearestPlace_mono {units larger : Int} (le : units ≤ larger) :
    nearestPlace units ≤ nearestPlace larger := by
  have ranks {first second : Nat} (le : first ≤ second) :
      (Rank.nearest first 1).val ≤ (Rank.nearest second 1).val := Rank.nearest_mono le
  unfold nearestPlace place
  by_cases below : larger < 0
  · have order := ranks (show larger.natAbs ≤ units.natAbs by omega)
    simp only [decide_eq_true (show units < 0 by omega), decide_eq_true below, if_true]
    omega
  · by_cases apart : units < 0
    · simp only [decide_eq_true apart, decide_eq_false below, if_true, Bool.false_eq_true, if_false]
      omega
    · have order := ranks (show units.natAbs ≤ larger.natAbs by omega)
      simp only [decide_eq_false apart, decide_eq_false below, Bool.false_eq_true, if_false]
      omega

/-- A number is the nearest to itself. -/
theorem nearestPlace_signedUnits (negative : Bool) (rank : Rank) :
    nearestPlace (signedUnits negative rank) = place negative rank := by
  have magnitude : (signedUnits negative rank).natAbs = rank.units := by
    cases negative <;> simp [signedUnits]
  rw [nearestPlace, magnitude, Rank.nearest_units, place_eq_iff]
  refine ⟨rfl, ?_⟩
  rcases Nat.eq_zero_or_pos rank.units with zero | positive
  · exact .inr (Rank.units_eq_zero.mp zero)
  · refine .inl ?_
    cases negative
    · simp [signedUnits]
    · simpa [signedUnits] using positive

/-- What is not rounded onto a number stays on its side of the number. -/
theorem compare_nearestPlace {units : Int} (apart : nearestPlace units ≠ place negative rank) :
    compare (nearestPlace units) (place negative rank) =
      compare units (signedUnits negative rank) := by
  rw [← nearestPlace_signedUnits negative rank] at apart ⊢
  rcases lt_trichotomy units (signedUnits negative rank) with below | same | above
  · have rounded := lt_of_le_of_ne (nearestPlace_mono below.le) apart
    rw [compare_lt_iff_lt.mpr below, compare_lt_iff_lt.mpr rounded]
  · exact absurd (congrArg nearestPlace same) apart
  · have rounded := lt_of_le_of_ne (nearestPlace_mono above.le) apart.symm
    rw [compare_gt_iff_gt.mpr above, compare_gt_iff_gt.mpr rounded]

theorem abs_toRat (negative : Bool) (rank : Rank) :
    |toRat negative rank| = rank.units / unitsOfOne := by
  have units : |(signedUnits negative rank : ℚ)| = rank.units := by
    cases negative <;> simp [signedUnits]
  rw [toRat, abs_div, units, Nat.abs_cast]

/-- The order of an integer and a number is that of both in units. -/
theorem cmp_toRat (number : Int) :
    cmp (number : ℚ) (toRat negative rank) =
      compare (number * unitsOfOne) (signedUnits negative rank) := by
  have unit : (0 : ℚ) < unitsOfOne := Nat.cast_pos.mpr unitsOfOne_pos
  have casts : StrictMono fun number : Int => (number : ℚ) := Int.cast_strictMono
  rw [← cmp_mul_pos_right unit, toRat, div_mul_cancel₀ _ unit.ne', ← cmp_eq_compare,
    ← casts.cmp_map_eq, Int.cast_mul, Int.cast_natCast]

theorem natAbs_mul_unitsOfOne (number : Int) :
    (number * unitsOfOne).natAbs = number.natAbs * unitsOfOne := by
  rw [Int.natAbs_mul, Int.natAbs_natCast]

theorem compare?_ofInt (number : Int) :
    (ofInt number).compare? (signed negative rank) =
      some (compare (nearestPlace (number * unitsOfOne)) (place negative rank)) := by
  have unit : (0 : Int) < unitsOfOne := Int.natCast_pos.mpr unitsOfOne_pos
  have sign : number * unitsOfOne < 0 ↔ number < 0 := by
    rw [mul_neg_iff]
    omega
  rw [nearestPlace, natAbs_mul_unitsOfOne, ofInt, compare?]
  simp only [sign]

/-- No integer of 64 bits is rounded to infinity. -/
theorem Rank.nearest_lt_infinity {whole : Nat} (short : whole ≤ 2 ^ 63) :
    (nearest (whole * unitsOfOne) 1).val < infinityRank := by
  obtain ⟨exponent, bound, unit⟩ := exists_unitsOfOne_eq
  obtain ⟨binade, top_binade⟩ : ∃ binade, binade = 2046 := ⟨_, rfl⟩
  have top : (nearest (2 ^ 63 * unitsOfOne) 1).val < (ofNat infinityRank).val := by
    have power : 2 ^ 63 * unitsOfOne = 1 * 2 ^ (63 + (exponent + 1)) := by
      rw [unit, Nat.one_mul, ← pow_add]
    have last : (ofNat infinityRank).val = ranksOfPower * (binade + 1) := by
      rw [top_binade]
      rfl
    have positive : 0 < ranksOfPower := by decide
    have large : ranksOfPower ≤ (ofNat infinityRank).val := by
      rw [last]
      exact Nat.le_mul_of_pos_right _ (Nat.succ_pos binade)
    refine Nat.lt_of_not_le fun above => ?_
    have units := units_le_units.mpr (Fin.le_def.mpr above)
    rw [power, units_nearest (by omega) (by decide), units_of_large large, last,
      Nat.mul_mod_right, Nat.mul_div_cancel_left _ positive, Nat.add_zero,
      Nat.add_sub_cancel] at units
    refine absurd units (Nat.not_le.mpr ?_)
    exact Nat.mul_lt_mul_of_lt_of_le (by decide) (Nat.pow_le_pow_right (by decide) (by omega))
      (Nat.two_pow_pos _)
  exact Nat.lt_of_le_of_lt (nearest_mono (Nat.mul_le_mul_right _ short)) top

theorem compare_place_infinity (sign negative : Bool) {rank infinite : Rank}
    (finite : rank.val < infinityRank) (last : infinite.val = infinityRank) :
    compare (place sign rank) (place negative infinite) = if negative then .gt else .lt := by
  unfold place
  cases negative with
  | false =>
      refine compare_lt_iff_lt.mpr ?_
      cases sign <;> simp only [if_true, if_false, Bool.false_eq_true] <;> omega
  | true =>
      refine compare_gt_iff_gt.mpr ?_
      cases sign <;> simp only [if_true, if_false, Bool.false_eq_true] <;> omega

end Binary64

namespace Value

open Binary64

/-- The order of an integer and a number, both taken exactly. -/
def exactOrder? (number : Int64) : Binary64 → Option Ordering
  | .nan => none
  | .signed negative rank =>
    if rank.val = infinityRank then some (if negative then .gt else .lt)
    else some (cmp (number.toInt : ℚ) (toRat negative rank))

/-- Whether an integer is rounded onto a number that it is not equal to. -/
def RoundsOnto (number : Int64) (met : Binary64) : Prop :=
  (asReal number).compare? met = some .eq ∧ exactOrder? number met ≠ some .eq

theorem exactOrder?_eq_some (number : Int64) {met : Binary64} (given : met ≠ .nan) :
    ∃ order, exactOrder? number met = some order := by
  cases met with
  | nan => contradiction
  | signed negative rank =>
      by_cases infinite : rank.val = infinityRank
      · exact ⟨_, if_pos infinite⟩
      · exact ⟨_, if_neg infinite⟩

theorem natAbs_le (number : Int64) : number.toInt.natAbs ≤ 2 ^ 63 := by
  have low := Int64.le_toInt number
  have high := Int64.toInt_lt number
  omega

/-- An integer is found in its exact order to a number, unless it is rounded onto it. -/
theorem compare?_eq_exactOrder? {number : Int64} {met : Binary64}
    (clear : ¬ RoundsOnto number met) :
    (integer number).compare? (real met) = exactOrder? number met := by
  cases met with
  | nan => rfl
  | signed negative rank =>
      by_cases apart : (asReal number).compare? (.signed negative rank) = some .eq
      · rw [RoundsOnto, not_and_not_right] at clear
        rw [compare?, apart, clear apart]
      · rw [compare?, exactOrder?]
        by_cases infinite : rank.val = infinityRank
        · rw [if_pos infinite]
          exact congrArg some (compare_place_infinity _ negative
            (Rank.nearest_lt_infinity (natAbs_le number)) infinite)
        · rw [if_neg infinite]
          rw [asReal, compare?_ofInt] at apart ⊢
          have places : nearestPlace (number.toInt * unitsOfOne) ≠ place negative rank :=
            fun same => apart (congrArg some (Std.compare_eq_iff_eq.mpr same))
          rw [compare_nearestPlace places, cmp_toRat]

theorem compare?_swap (number : Int64) (met : Binary64) :
    (real met).compare? (integer number) =
      ((integer number).compare? (real met)).map Ordering.swap :=
  compare?_mirrored (integer number) (real met)

/-- An integer of at most 53 binary digits, or 2^53, is not rounded. -/
theorem units_of_integer {number : Int64} (short : number.toInt.natAbs ≤ 2 ^ 53) :
    (Rank.nearest (number.toInt.natAbs * unitsOfOne) 1).units =
      number.toInt.natAbs * unitsOfOne := by
  rcases Nat.lt_or_eq_of_le short with below | same
  · exact Rank.units_of_whole below
  · obtain ⟨exponent, bound, unit⟩ := exists_unitsOfOne_eq
    have power : 2 ^ 53 * unitsOfOne = 1 * 2 ^ (53 + (exponent + 1)) := by
      rw [unit, Nat.one_mul, ← pow_add]
    rw [same, power]
    exact Rank.units_nearest (by omega) (by decide)

/-- Only integers beyond 2^53 are rounded onto other numbers, which are not below 2^53. -/
theorem RoundsOnto.large {number : Int64} {negative : Bool} {rank : Rank}
    (rounded : RoundsOnto number (.signed negative rank)) :
    2 ^ 53 < number.toInt.natAbs ∧ 2 ^ 53 ≤ |toRat negative rank| := by
  obtain ⟨equal, different⟩ := rounded
  obtain ⟨rfl, sign⟩ := compare?_signed.mp equal
  have long : 2 ^ 53 < number.toInt.natAbs := by
    by_contra short
    have units := units_of_integer (Nat.le_of_not_lt short)
    have finite := Rank.nearest_lt_infinity (natAbs_le number)
    rw [exactOrder?, if_neg finite.ne, cmp_toRat] at different
    refine different (congrArg some (Std.compare_eq_iff_eq.mpr ?_))
    rw [signedUnits, units, Nat.cast_mul]
    rcases sign with rfl | zero
    · by_cases below : number.toInt < 0
      · rw [decide_eq_true below, if_pos rfl, ← neg_mul]
        exact congrArg (· * (unitsOfOne : Int)) (by omega)
      · rw [decide_eq_false below, if_neg Bool.false_ne_true]
        exact congrArg (· * (unitsOfOne : Int)) (by omega)
    · rw [← Rank.units_eq_zero, units, Nat.mul_eq_zero] at zero
      have none := Int.natAbs_eq_zero.mp (zero.resolve_right unitsOfOne_pos.ne')
      simp only [none, Int.natAbs_zero, Nat.cast_zero, zero_mul, neg_zero, ite_self]
  have unit : (0 : ℚ) < unitsOfOne := Nat.cast_pos.mpr unitsOfOne_pos
  refine ⟨long, ?_⟩
  rw [abs_toRat, le_div_iff₀ unit]
  exact_mod_cast Rank.le_units_of_whole long.le

end Value

namespace Predicate

variable {now : Timestamp} {relation : Relation} {column : Column} {place : Nat} {literal : Tree}

/-- A real stays a real to a column of integers. -/
theorem operand_of_real {met : Binary64}
    (whole : column.type = .integer ∨ column.type = .serial)
    (read : literal.literalValue now = .ok (.real met)) :
    operand now column literal = .ok (.real met) := by
  refine (operand_of_literal read).mpr (.inr ⟨⟨.typeMismatch, ?_⟩, rfl⟩)
  rcases whole with type | type <;> rw [type] <;> rfl

end Predicate

/-- An integer has its exact order to a real, and the real the reverse to the integer, unless the
integer is beyond 2^53 and is rounded onto the real: then the two are taken for equal.  So a
comparison of a column of integers with a real keeps the rows whose integer stands in the relation
to the real, up to this. -/
theorem Value.integer_meets_real (number : Int64) (met : Binary64) :
    (real met).compare? (integer number) =
      ((integer number).compare? (real met)).map Ordering.swap ∧
    (¬ RoundsOnto number met → (integer number).compare? (real met) = exactOrder? number met) ∧
    (RoundsOnto number met → (integer number).compare? (real met) = some .eq ∧
      2 ^ 53 < number.toInt.natAbs ∧
      ∃ negative rank, met = .signed negative rank ∧ 2 ^ 53 ≤ |Binary64.toRat negative rank|) ∧
    ∀ (now : Timestamp) (relation : Relation) (name lexeme : String) (literal : Tree)
      (token : Token) (comparison : Comparison) (column : Column) (place : Nat),
      Comparison.ofToken? token = some comparison →
      relation.column name = .ok (column, place) →
      column.type = .integer ∨ column.type = .serial →
      literal.literalValue now = .ok (.real met) →
      ∃ predicate order,
        Predicate.ofTree now relation ⟨token, lexeme, [⟨.identifier, name, []⟩, literal]⟩ =
          .ok predicate ∧
        exactOrder? number met = some order ∧
        ∀ row : Row, (row.cell place = .ok .null → predicate.holds row = .ok false) ∧
          (row.cell place = .ok (.integer number) →
            (¬ RoundsOnto number met → predicate.holds row = .ok (comparison.holds order)) ∧
            (RoundsOnto number met → predicate.holds row = .ok (comparison.holds .eq))) := by
  refine ⟨compare?_swap number met, compare?_eq_exactOrder?, fun rounded => ?_, ?_⟩
  · cases met with
    | nan => exact absurd rounded.1 (by simp [asReal, Binary64.ofInt, Binary64.compare?])
    | signed negative rank =>
        obtain ⟨long, large⟩ := rounded.large
        exact ⟨rounded.1, long, negative, rank, rfl, large⟩
  · intro now relation name lexeme literal token comparison column place kind found whole read
    obtain ⟨order, exact⟩ := exactOrder?_eq_some number fun nan =>
      Tree.literalValue_ne_nan read (congrArg real nan)
    refine ⟨.compare place comparison (.real met), order, ?_, exact, fun row => ⟨?_, ?_⟩⟩
    · rw [Predicate.ofTree_of_comparison kind, Predicate.ofComparison, Predicate.subject, found]
      exact Checked.bind_eq_ok.mpr ⟨_, rfl, Checked.bind_eq_ok.mpr
        ⟨_, Predicate.operand_of_real whole read, rfl⟩⟩
    · intro here
      rw [Predicate.holds_compare here]
      rfl
    · intro here
      rw [Predicate.holds_compare here]
      refine ⟨fun clear => ?_, fun rounded => ?_⟩
      · exact Predicate.comparesWith_of_compare? comparison
          ((compare?_eq_exactOrder? clear).trans exact)
      · exact Predicate.comparesWith_of_compare? comparison rounded.1

/-- Two is greater than one and a half. -/
theorem Value.two_meets_one_and_a_half :
    let now := Date.atMidnight ⟨1970, 1, 1, by decide⟩
    let met := Binary64.signed false (.ofNat 4609434218613702656)
    let literal : Tree := ⟨.number, "1.5", []⟩
    let row : Row := [.integer 2, .text "xy", .null]
    listing.column "a" = .ok (.ofType "a" .integer, 0) ∧
      literal.literalValue now = .ok (.real met) ∧ row.cell 0 = .ok (.integer 2) ∧
      ∃ predicate,
        Predicate.ofTree now listing ⟨.greater, ">", [⟨.identifier, "a", []⟩, literal]⟩ =
          .ok predicate ∧
        predicate.holds row = .ok true := by
  intro now met literal row
  have found : listing.column "a" = .ok (.ofType "a" .integer, 0) := by decide +kernel
  have read : literal.literalValue now = .ok (.real met) := by decide +kernel
  have here : row.cell 0 = .ok (.integer 2) := rfl
  have greater : exactOrder? 2 met = some .gt := by decide +kernel
  obtain ⟨-, -, far, kept⟩ := integer_meets_real 2 met
  have clear : ¬ RoundsOnto 2 met := fun rounded => absurd (far rounded).2.1 (by decide)
  obtain ⟨predicate, order, made, exact, keeps⟩ :=
    kept now listing "a" ">" literal .greater .greater _ 0 rfl found (.inl rfl) read
  obtain rfl := Option.some.inj (greater.symm.trans exact)
  exact ⟨found, read, here, predicate, made, ((keeps row).2 here).1 clear⟩

/-- The first integer that is rounded is greater than 2^53, but is found to be equal to it. -/
theorem Value.large_integer_meets_real :
    let now := Date.atMidnight ⟨1970, 1, 1, by decide⟩
    let met := Binary64.signed false (.ofNat 4845873199050653696)
    let literal : Tree := ⟨.number, "9007199254740992.0", []⟩
    literal.literalValue now = .ok (.real met) ∧
      exactOrder? 9007199254740993 met = some .gt ∧
      (integer 9007199254740993).compare? (real met) = some .eq ∧
      (do
        let predicate ← Predicate.ofTree now listing
          ⟨.equal, "=", [⟨.identifier, "a", []⟩, literal]⟩
        predicate.holds [.integer 9007199254740993, .text "xy", .null]) = .ok true := by
  decide +kernel

end SqlEngine
