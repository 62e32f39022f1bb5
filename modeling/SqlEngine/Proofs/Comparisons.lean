import SqlEngine.Proofs.Rounding
import SqlEngine.Proofs.Typing

/-!
# Equal values

Two cells of one column are equal when they have the same value, or are the two zeros.  With an
operand of another kind, several cells of one column can be equal to the same operand: integers from
2^53 on are rounded to meet a real, and texts stand for the moments that they spell.
-/

namespace SqlEngine
namespace Binary64

theorem place_eq_iff {negative negative' : Bool} {rank rank' : Rank} :
    place negative rank = place negative' rank' ↔
      rank = rank' ∧ (negative = negative' ∨ rank.val = 0) := by
  unfold place
  rw [Fin.ext_iff]
  cases negative <;> cases negative' <;> simp only [if_true, if_false, Bool.false_eq_true,
    reduceCtorEq, true_or, and_true, false_or] <;> omega

theorem compare?_signed {negative negative' : Bool} {rank rank' : Rank} :
    (signed negative rank).compare? (signed negative' rank') = some .eq ↔
      rank = rank' ∧ (negative = negative' ∨ rank.val = 0) := by
  rw [← place_eq_iff]
  simp only [compare?, Option.some.injEq, Std.compare_eq_iff_eq]

end Binary64

theorem Date.compare_eq_iff {left right : Date} : left.compare right = .eq ↔ left = right := by
  simp only [compare, Ordering.then_eq_eq, Std.compare_eq_iff_eq]
  constructor
  · rintro ⟨year, month, day⟩
    obtain ⟨_, _, _, _⟩ := left
    obtain ⟨_, _, _, _⟩ := right
    subst year month day
    rfl
  · rintro rfl
    exact ⟨rfl, rfl, rfl⟩

theorem Time.compare_eq_iff {left right : Time} : left.compare right = .eq ↔ left = right := by
  simp only [compare, Ordering.then_eq_eq, Std.compare_eq_iff_eq]
  constructor
  · rintro ⟨hour, minute, second, nanosecond⟩
    obtain ⟨_, _, _, _, _⟩ := left
    obtain ⟨_, _, _, _, _⟩ := right
    subst hour minute second nanosecond
    rfl
  · rintro rfl
    exact ⟨rfl, rfl, rfl, rfl⟩

theorem Timestamp.compare_eq_iff {left right : Timestamp} :
    left.compare right = .eq ↔ left = right := by
  obtain ⟨date, time⟩ := left
  obtain ⟨date', time'⟩ := right
  rw [compare, Ordering.then_eq_eq, Date.compare_eq_iff, Time.compare_eq_iff, mk.injEq]

namespace Value

/-- Whether two values are of one kind, and none of them is null or a NaN. -/
inductive Alike : Value → Value → Prop where
  /-- Whole numbers. -/
  | integers (left right : Int64) : Alike (.integer left) (.integer right)
  /-- Floating-point numbers. -/
  | reals (negative negative' : Bool) (rank rank' : Binary64.Rank) :
      Alike (.real (.signed negative rank)) (.real (.signed negative' rank'))
  /-- Texts. -/
  | texts (left right : String) : Alike (.text left) (.text right)
  /-- Truth values. -/
  | booleans (left right : Bool) : Alike (.boolean left) (.boolean right)
  /-- Days. -/
  | dates (left right : Date) : Alike (.date left) (.date right)
  /-- Moments. -/
  | timestamps (left right : Timestamp) : Alike (.timestamp left) (.timestamp right)

/-- Whether two values are zeros of different signs. -/
def OppositeZeros (first second : Value) : Prop :=
  ∃ negative, first = .real (.signed negative (Binary64.Rank.ofNat 0)) ∧
    second = .real (.signed (!negative) (Binary64.Rank.ofNat 0))

/-- Values of one kind are equal when they are the same, or the two zeros. -/
theorem Alike.compare?_eq_iff {first second : Value} (alike : Alike first second) :
    first.compare? second = some .eq ↔ first = second ∨ OppositeZeros first second := by
  cases alike with
  | integers left right => simp [compare?, OppositeZeros, Int64.toInt_inj]
  | reals negative negative' rank rank' =>
      simp only [compare?, Binary64.compare?_signed, OppositeZeros, real.injEq,
        Binary64.signed.injEq]
      constructor
      · rintro ⟨rfl, rfl | zero⟩
        · exact .inl ⟨rfl, rfl⟩
        · obtain rfl : rank = Binary64.Rank.ofNat 0 := Fin.ext zero
          cases negative <;> cases negative' <;> simp
      · rintro (⟨rfl, rfl⟩ | ⟨_, ⟨rfl, rfl⟩, -, rfl⟩)
        · exact ⟨rfl, .inl rfl⟩
        · exact ⟨rfl, .inr rfl⟩
  | texts left right => simp [compare?, OppositeZeros]
  | booleans left right => simp [compare?, OppositeZeros]
  | dates left right => simp [compare?, OppositeZeros, Date.compare_eq_iff]
  | timestamps left right => simp [compare?, OppositeZeros, Timestamp.compare_eq_iff]

end Value

namespace ColumnType

/-- Whether a value is of the kind that a type is for. -/
def Suits : ColumnType → Value → Prop
  | integer, value | serial, value => ∃ number, value = .integer number
  | real, value => ∃ negative rank, value = .real (.signed negative rank)
  | text, value | varchar _, value => ∃ content, value = .text content
  | boolean, value => ∃ truth, value = .boolean truth
  | date, value => ∃ day, value = .date day
  | timestamp, value => ∃ moment, value = .timestamp moment

theorem suits_of_holds {type : ColumnType} {value : Value} (held : type.Holds value)
    (value_ne : value ≠ .null) : type.Suits value := by
  obtain ⟨kept, is_number⟩ := held
  cases type with
  | integer | serial =>
      cases value with
      | integer number => exact ⟨number, rfl⟩
      | _ => simp [coerce] at kept value_ne
  | real =>
      cases value with
      | real number =>
          cases number with
          | nan => contradiction
          | signed negative rank => exact ⟨negative, rank, rfl⟩
      | _ => simp [coerce] at kept value_ne
  | text | varchar =>
      cases value with
      | text content => exact ⟨content, rfl⟩
      | _ => simp [coerce] at kept value_ne
  | boolean =>
      cases value with
      | boolean truth => exact ⟨truth, rfl⟩
      | integer number =>
          simp only [coerce] at kept
          split at kept <;> cases kept
      | _ => simp [coerce] at kept value_ne
  | date =>
      cases value with
      | date day => exact ⟨day, rfl⟩
      | text content =>
          simp only [coerce] at kept
          split at kept <;> cases kept
      | _ => simp [coerce] at kept value_ne
  | timestamp =>
      cases value with
      | timestamp moment => exact ⟨moment, rfl⟩
      | text content =>
          simp only [coerce] at kept
          split at kept <;> cases kept
      | _ => simp [coerce] at kept value_ne

theorem alike_of_holds {type : ColumnType} {first second : Value} (first_held : type.Holds first)
    (second_held : type.Holds second) (first_ne : first ≠ .null) (second_ne : second ≠ .null) :
    Value.Alike first second := by
  have first_suits := suits_of_holds first_held first_ne
  have second_suits := suits_of_holds second_held second_ne
  cases type with
  | integer | serial =>
      obtain ⟨left, rfl⟩ := first_suits
      obtain ⟨right, rfl⟩ := second_suits
      exact .integers left right
  | real =>
      obtain ⟨negative, rank, rfl⟩ := first_suits
      obtain ⟨negative', rank', rfl⟩ := second_suits
      exact .reals negative negative' rank rank'
  | text | varchar =>
      obtain ⟨left, rfl⟩ := first_suits
      obtain ⟨right, rfl⟩ := second_suits
      exact .texts left right
  | boolean =>
      obtain ⟨left, rfl⟩ := first_suits
      obtain ⟨right, rfl⟩ := second_suits
      exact .booleans left right
  | date =>
      obtain ⟨left, rfl⟩ := first_suits
      obtain ⟨right, rfl⟩ := second_suits
      exact .dates left right
  | timestamp =>
      obtain ⟨left, rfl⟩ := first_suits
      obtain ⟨right, rfl⟩ := second_suits
      exact .timestamps left right

/-- Whether several values of a type can be equal to one operand: a zero is equal to the zero of the
other sign, integers from 2^53 on are rounded to meet a real, and texts stand for the moments that
they spell. -/
def Blurs : ColumnType → Value → Prop
  | real, .real (.signed _ rank) => rank.val = 0
  | real, .integer number => number = 0
  | integer, .real (.signed _ rank) | serial, .real (.signed _ rank) =>
    2 ^ 53 * Binary64.unitsOfOne ≤ rank.units
  | text, .date _ | varchar _, .date _ | text, .timestamp _ | varchar _, .timestamp _ => True
  | _, _ => False

end ColumnType

namespace Value

private theorem reals_eq {negative negative' sign : Bool} {rank rank' magnitude : Binary64.Rank}
    (nonzero : magnitude.val ≠ 0)
    (first : (Binary64.signed negative rank).compare? (.signed sign magnitude) = some .eq)
    (second : (Binary64.signed negative' rank').compare? (.signed sign magnitude) = some .eq) :
    Binary64.signed negative rank = .signed negative' rank' := by
  obtain ⟨rfl, same⟩ := Binary64.compare?_signed.mp first
  obtain ⟨rfl, same'⟩ := Binary64.compare?_signed.mp second
  rw [same.resolve_right nonzero, same'.resolve_right nonzero]

/-- An integer that is not zero does not become a zero. -/
theorem rank_ne_zero_of_integer {number : Int64} (nonzero : number ≠ 0) :
    (Binary64.Rank.nearest (number.toInt.natAbs * Binary64.unitsOfOne) 1).val ≠ 0 := by
  have unit := Binary64.unitsOfOne_pos
  have positive : 0 < number.toInt.natAbs := by
    refine Int.natAbs_pos.mpr fun zero => nonzero ?_
    exact Int64.toInt_inj.mp zero
  rw [Ne, ← Binary64.Rank.units_eq_zero]
  refine Nat.ne_of_gt ?_
  by_cases short : number.toInt.natAbs < 2 ^ 53
  · rw [Binary64.Rank.units_of_whole short]
    exact Nat.mul_pos positive unit
  · exact Nat.lt_of_lt_of_le (Nat.mul_pos (by decide) unit)
      (Binary64.Rank.le_units_of_whole (Nat.le_of_not_lt short))

/-- An integer that is equal to a real below 2^53 has the magnitude and the sign of the real. -/
theorem units_of_equal_integer {number : Int64} {negative : Bool} {rank : Binary64.Rank}
    (small : rank.units < 2 ^ 53 * Binary64.unitsOfOne)
    (equal : (asReal number).compare? (.signed negative rank) = some .eq) :
    number.toInt.natAbs * Binary64.unitsOfOne = rank.units ∧
      (number.toInt = 0 ∨ decide (number.toInt < 0) = negative) := by
  obtain ⟨magnitude, sign⟩ := Binary64.compare?_signed.mp equal
  have short : number.toInt.natAbs < 2 ^ 53 := by
    by_contra long
    have large := Binary64.Rank.le_units_of_whole (Nat.le_of_not_lt long)
    rw [magnitude] at large
    exact absurd small (Nat.not_lt.mpr large)
  have units : number.toInt.natAbs * Binary64.unitsOfOne = rank.units := by
    rw [← magnitude, Binary64.Rank.units_of_whole short]
  refine ⟨units, ?_⟩
  rcases sign with same | zero
  · exact .inr same
  · have unit := Binary64.unitsOfOne_pos
    rw [magnitude, ← Binary64.Rank.units_eq_zero, ← units] at zero
    exact .inl (Int.natAbs_eq_zero.mp ((Nat.mul_eq_zero.mp zero).resolve_right unit.ne'))

/-- Below 2^53, at most one integer is equal to a real. -/
theorem integers_eq {left right : Int64} {negative : Bool} {rank : Binary64.Rank}
    (small : rank.units < 2 ^ 53 * Binary64.unitsOfOne)
    (first : (asReal left).compare? (.signed negative rank) = some .eq)
    (second : (asReal right).compare? (.signed negative rank) = some .eq) : left = right := by
  obtain ⟨left_units, left_sign⟩ := units_of_equal_integer small first
  obtain ⟨right_units, right_sign⟩ := units_of_equal_integer small second
  have magnitudes : left.toInt.natAbs = right.toInt.natAbs :=
    Nat.eq_of_mul_eq_mul_right Binary64.unitsOfOne_pos (left_units.trans right_units.symm)
  apply Int64.toInt_inj.mp
  cases negative <;>
    simp only [decide_eq_true_eq, decide_eq_false_iff_not] at left_sign right_sign <;> omega

/-- At most one day is equal to an operand. -/
theorem days_eq {left right : Date} {operand : Value}
    (first : (date left).compare? operand = some .eq)
    (second : (date right).compare? operand = some .eq) : left = right := by
  cases operand with
  | date day =>
      simp only [compare?, Option.some.injEq, Date.compare_eq_iff] at first second
      rw [first, second]
  | timestamp moment =>
      simp only [compare?, Option.some.injEq, Timestamp.compare_eq_iff] at first second
      exact congrArg Timestamp.date (first.trans second.symm)
  | text content =>
      simp only [compare?, Option.map_eq_some_iff, Date.compare_eq_iff] at first second
      obtain ⟨day, read, rfl⟩ := first
      obtain ⟨day', read', rfl⟩ := second
      exact Option.some.inj (read.symm.trans read')
  | _ => contradiction

/-- At most one moment is equal to an operand. -/
theorem moments_eq {left right : Timestamp} {operand : Value}
    (first : (timestamp left).compare? operand = some .eq)
    (second : (timestamp right).compare? operand = some .eq) : left = right := by
  cases operand with
  | timestamp moment =>
      simp only [compare?, Option.some.injEq, Timestamp.compare_eq_iff] at first second
      rw [first, second]
  | date day =>
      simp only [compare?, Option.some.injEq, Timestamp.compare_eq_iff] at first second
      rw [first, second]
  | text content =>
      simp only [compare?, Option.map_eq_some_iff, Timestamp.compare_eq_iff] at first second
      obtain ⟨moment, read, rfl⟩ := first
      obtain ⟨moment', read', rfl⟩ := second
      exact Option.some.inj (read.symm.trans read')
  | _ => contradiction

end Value

/-- Unless it blurs them, at most one value of a type is equal to an operand. -/
theorem ColumnType.eq_of_equal_operand {type : ColumnType} {first second operand : Value}
    (first_suits : type.Suits first) (second_suits : type.Suits second)
    (clear : ¬ type.Blurs operand) (first_equal : first.compare? operand = some .eq)
    (second_equal : second.compare? operand = some .eq) : first = second := by
  cases type with
  | integer | serial =>
      obtain ⟨left, rfl⟩ := first_suits
      obtain ⟨right, rfl⟩ := second_suits
      cases operand with
      | integer number =>
          simp only [Value.compare?, Option.some.injEq, Std.compare_eq_iff_eq, Int64.toInt_inj]
            at first_equal second_equal
          rw [first_equal, second_equal]
      | real number =>
          cases number with
          | nan => contradiction
          | signed negative rank =>
              rw [Value.integers_eq (Nat.lt_of_not_le clear) first_equal second_equal]
      | _ => contradiction
  | real =>
      obtain ⟨negative, rank, rfl⟩ := first_suits
      obtain ⟨negative', rank', rfl⟩ := second_suits
      cases operand with
      | integer number =>
          exact congrArg Value.real
            (Value.reals_eq (Value.rank_ne_zero_of_integer clear) first_equal second_equal)
      | real number =>
          cases number with
          | nan => contradiction
          | signed sign magnitude =>
              exact congrArg Value.real (Value.reals_eq clear first_equal second_equal)
      | _ => contradiction
  | text | varchar =>
      obtain ⟨left, rfl⟩ := first_suits
      obtain ⟨right, rfl⟩ := second_suits
      cases operand with
      | text content =>
          simp only [Value.compare?, Option.some.injEq, Std.compare_eq_iff_eq]
            at first_equal second_equal
          rw [first_equal, second_equal]
      | date | timestamp => exact absurd trivial clear
      | _ => contradiction
  | boolean =>
      obtain ⟨left, rfl⟩ := first_suits
      obtain ⟨right, rfl⟩ := second_suits
      cases operand with
      | boolean truth =>
          simp only [Value.compare?, Option.some.injEq, Std.compare_eq_iff_eq]
            at first_equal second_equal
          rw [first_equal, second_equal]
      | _ => contradiction
  | date =>
      obtain ⟨left, rfl⟩ := first_suits
      obtain ⟨right, rfl⟩ := second_suits
      rw [Value.days_eq first_equal second_equal]
  | timestamp =>
      obtain ⟨left, rfl⟩ := first_suits
      obtain ⟨right, rfl⟩ := second_suits
      rw [Value.moments_eq first_equal second_equal]

end SqlEngine
