import SqlEngine.Proofs.Decimals
import SqlEngine.Value
import Std.Data.String.ToInt

/-!
# Literals of values

A literal tells the values of one kind apart, with one exception: what a moment has beyond whole
seconds is not written.  Dates have their months and days, and moments their times, in a fixed
number of digits at the end, and only a whole real gets a fraction of one zero.
-/

namespace SqlEngine
namespace Text

theorem doubleQuotes_inj {left right : List Char} (same : doubleQuotes left = doubleQuotes right) :
    left = right := by
  induction left generalizing right with
  | nil =>
      cases right with
      | nil => rfl
      | cons d right =>
          unfold doubleQuotes at same
          split at same <;> contradiction
  | cons c left induction =>
      cases right with
      | nil =>
          unfold doubleQuotes at same
          split at same <;> contradiction
      | cons d right =>
          obtain rfl : c = d := by
            unfold doubleQuotes at same
            split at same <;> split at same <;> exact (List.cons.inj same).1
          by_cases quote : c = '\x27'
          · simp only [doubleQuotes, if_pos quote, List.cons.injEq, true_and] at same
            rw [induction same]
          · simp only [doubleQuotes, if_neg quote, List.cons.injEq, true_and] at same
            rw [induction same]

/-- Quotes around a text hide nothing of it. -/
theorem quoted_inj {left right : String} : quoted left = quoted right ↔ left = right := by
  refine ⟨fun same => ?_, fun same => by rw [same]⟩
  have chars := String.ofList_injective same
  have inner := (List.append_inj' chars rfl).1
  exact String.toList_injective (doubleQuotes_inj (List.cons.inj inner).2)

end Text

theorem daysInMonth_le (year : Int) (month : Nat) : daysInMonth year month ≤ 31 := by
  unfold daysInMonth
  repeat' split
  all_goals decide

namespace Date

theorem month_lt (date : Date) : date.month < 10 ^ 2 := by
  obtain ⟨-, -, -, above, -⟩ := date.valid
  omega

theorem day_lt (date : Date) : date.day < 10 ^ 2 := by
  obtain ⟨-, -, -, -, -, above⟩ := date.valid
  have := daysInMonth_le date.year date.month
  omega

private theorem sign_ne_digit {sign : Char} (other : sign.isDigit = false) {digits : List Char}
    {number : Nat} : sign :: digits ≠ Numeral.padded 4 number := by
  intro same
  have digit : sign.isDigit = true :=
    Numeral.isDigit_of_mem_padded (same ▸ List.mem_cons_self)
  rw [other] at digit
  contradiction

/-- A year is told by its sign and its digits. -/
theorem yearChars_inj {left right : Int} (same : yearChars left = yearChars right) :
    left = right := by
  unfold yearChars at same
  split at same
  · split at same
    · have digits := Numeral.padded_inj.mp (List.cons.inj same).2
      omega
    · split at same
      · exact absurd (List.cons.inj same).1 (by decide)
      · exact absurd same (sign_ne_digit (by decide))
  · split at same
    · split at same
      · exact absurd (List.cons.inj same).1 (by decide)
      · split at same
        · have digits := Numeral.padded_inj.mp (List.cons.inj same).2
          omega
        · exact absurd same (sign_ne_digit (by decide))
    · split at same
      · exact absurd same.symm (sign_ne_digit (by decide))
      · split at same
        · exact absurd same.symm (sign_ne_digit (by decide))
        · have digits := Numeral.padded_inj.mp same
          omega

theorem chars_inj {left right : Date} : left.chars = right.chars ↔ left = right := by
  refine ⟨fun same => ?_, fun same => by rw [same]⟩
  have width {number : Nat} (short : number < 10 ^ 2) :
      ('-' :: Numeral.padded 2 number).length = 3 := by
    rw [List.length_cons, Numeral.length_padded (by decide) short]
  obtain ⟨front, day⟩ := List.append_inj' same ((width left.day_lt).trans (width right.day_lt).symm)
  obtain ⟨year, month⟩ :=
    List.append_inj' front ((width left.month_lt).trans (width right.month_lt).symm)
  have year_eq := yearChars_inj year
  have month_eq := Numeral.padded_inj.mp (List.cons.inj month).2
  have day_eq := Numeral.padded_inj.mp (List.cons.inj day).2
  obtain ⟨_, _, _, _⟩ := left
  obtain ⟨_, _, _, _⟩ := right
  subst year_eq month_eq day_eq
  rfl

end Date

namespace Time

/-- The second that is written, which is 60 in a leap second. -/
def shownSecond (time : Time) : Nat :=
  time.second + time.nanosecond / 1000000000

theorem shownSecond_lt (time : Time) : time.shownSecond < 10 ^ 2 := by
  obtain ⟨-, -, second, nanosecond⟩ := time.valid
  unfold shownSecond
  omega

private theorem length_field {number : Nat} (short : number < 10 ^ 2) :
    (Numeral.padded 2 number).length = 2 :=
  Numeral.length_padded (by decide) short

theorem hour_lt (time : Time) : time.hour < 10 ^ 2 := by
  have := time.valid.1
  omega

theorem minute_lt (time : Time) : time.minute < 10 ^ 2 := by
  have := time.valid.2.1
  omega

theorem length_chars (time : Time) : time.chars.length = 8 := by
  change (Numeral.padded 2 time.hour ++ ':' :: Numeral.padded 2 time.minute ++
    ':' :: Numeral.padded 2 time.shownSecond).length = 8
  simp only [List.length_append, List.length_cons, length_field time.hour_lt,
    length_field time.minute_lt, length_field time.shownSecond_lt]

/-- Times of day are written in one way when they lie in one second. -/
theorem chars_inj {left right : Time} : left.chars = right.chars ↔
    left.hour = right.hour ∧ left.minute = right.minute ∧
      left.shownSecond = right.shownSecond := by
  constructor
  · intro same
    have seconds : (':' :: Numeral.padded 2 left.shownSecond).length =
        (':' :: Numeral.padded 2 right.shownSecond).length := by
      simp only [List.length_cons, length_field left.shownSecond_lt,
        length_field right.shownSecond_lt]
    obtain ⟨front, second⟩ := List.append_inj' same seconds
    obtain ⟨hour, minute⟩ := List.append_inj front
      ((length_field left.hour_lt).trans (length_field right.hour_lt).symm)
    exact ⟨Numeral.padded_inj.mp hour, Numeral.padded_inj.mp (List.cons.inj minute).2,
      Numeral.padded_inj.mp (List.cons.inj second).2⟩
  · rintro ⟨hour, minute, second⟩
    unfold shownSecond at second
    simp only [chars, hour, minute, second]

end Time

namespace Timestamp

/-- Whether two moments lie in one second, as their texts count seconds. -/
def SameSecond (left right : Timestamp) : Prop :=
  left.date = right.date ∧ left.time.hour = right.time.hour ∧
    left.time.minute = right.time.minute ∧ left.time.shownSecond = right.time.shownSecond

instance (left right : Timestamp) : Decidable (left.SameSecond right) :=
  inferInstanceAs (Decidable (_ ∧ _))

theorem toText_inj {left right : Timestamp} :
    left.toText = right.toText ↔ left.SameSecond right := by
  unfold toText SameSecond
  rw [String.ofList_inj, ← Time.chars_inj, ← Date.chars_inj]
  constructor
  · intro same
    obtain ⟨date, time⟩ := List.append_inj' same
      (by simp only [List.length_cons, Time.length_chars])
    exact ⟨date, (List.cons.inj time).2⟩
  · rintro ⟨date, time⟩
    rw [date, time]

end Timestamp

namespace Binary64

private theorem minus_notMem (rank : Rank) : '-' ∉ rank.text :=
  rank.notMem_text (by decide) (by decide) (by decide)

private theorem chars_of_minus {rank : Rank} {rest : List Char} : '-' :: rest ≠ rank.text :=
  fun same => minus_notMem rank (same ▸ List.mem_cons_self)

/-- Numbers are written in different ways, and so are the two zeros. -/
theorem chars_inj {left right : Binary64} (left_number : left ≠ nan) (right_number : right ≠ nan)
    (same : left.chars = right.chars) : left = right := by
  cases left with
  | nan => contradiction
  | signed negative rank =>
      cases right with
      | nan => contradiction
      | signed negative' rank' =>
          cases negative <;> cases negative'
          · rw [Rank.text_inj same]
          · exact absurd same.symm chars_of_minus
          · exact absurd same chars_of_minus
          · rw [Rank.text_inj (List.cons.inj same).2]

theorem chars_ne_append_zero {number : Binary64} (is_number : number ≠ nan) (front : List Char) :
    number.chars ≠ front ++ ['.', '0'] := by
  cases number with
  | nan => contradiction
  | signed negative rank =>
      cases negative with
      | false => exact rank.text_ne_append_zero front
      | true =>
          intro same
          cases front with
          | nil => exact absurd (List.cons.inj same).1 (by decide)
          | cons _ front => exact rank.text_ne_append_zero front (List.cons.inj same).2

end Binary64

namespace Value

/-- The literals of reals tell them apart, as no number that is written with a point is written like
one to which a fraction of one zero was added. -/
theorem realLiteral_inj {left right : Binary64} (left_number : left ≠ .nan)
    (right_number : right ≠ .nan) : realLiteral left = realLiteral right ↔ left = right := by
  refine ⟨fun same => ?_, fun same => by rw [same]⟩
  have written {number : Binary64} (is_number : number ≠ .nan) :
      realLiteral number = String.ofList number.chars ∨
        realLiteral number = String.ofList (number.chars ++ ['.', '0']) := by
    simp only [realLiteral]
    split
    · exact .inl rfl
    · exact .inr rfl
  rcases written left_number with left_eq | left_eq <;>
    rcases written right_number with right_eq | right_eq <;>
    rw [left_eq, right_eq, String.ofList_inj] at same
  · exact Binary64.chars_inj left_number right_number same
  · exact absurd same (Binary64.chars_ne_append_zero left_number _)
  · exact absurd same.symm (Binary64.chars_ne_append_zero right_number _)
  · exact Binary64.chars_inj left_number right_number (List.append_inj_left' same rfl)

end Value
end SqlEngine
