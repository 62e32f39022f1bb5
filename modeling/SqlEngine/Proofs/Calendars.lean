import SqlEngine.Calendar.Reading
import SqlEngine.Proofs.Characters
import SqlEngine.Proofs.Literals
import SqlEngine.Proofs.Numerals
import SqlEngine.Proofs.Scanning

/-!
# Reading back dates and timestamps

A date is read back from its text, whatever its year.  A timestamp is read back from its text up to
the second, as the text has no fraction of a second.  Only a text with a point stands for a
timestamp that has one.
-/

namespace SqlEngine
namespace Reading

open Scan

theorem blanks_of_visible {c : Char} (visible : Text.isBlank c = false) (rest : List Char) :
    blanks (c :: rest) = .done ((), c :: rest) := by
  rw [blanks, Text.trimStart, List.dropWhile_cons_of_neg (Bool.not_eq_true _ ▸ visible)]

theorem isBlank_of_digit {c : Char} (digit : c.isDigit = true) : Text.isBlank c = false :=
  (Text.isNameChar_of_plain (Text.plain_of_digit digit)).2

theorem padded_eq_cons {width : Nat} (positive : 0 < width) (number : Nat) :
    ∃ c digits, Numeral.padded width number = c :: digits ∧ c.isDigit = true := by
  have long := Numeral.le_length_padded width number
  obtain ⟨c, digits, split⟩ := List.exists_cons_of_ne_nil
    (List.ne_nil_of_length_pos (Nat.lt_of_lt_of_le positive long))
  exact ⟨c, digits, split, Numeral.isDigit_of_mem_padded (split ▸ List.mem_cons_self)⟩

theorem blanks_padded {width : Nat} (positive : 0 < width) (number : Nat) (rest : List Char) :
    blanks (Numeral.padded width number ++ rest) =
      .done ((), Numeral.padded width number ++ rest) := by
  obtain ⟨c, digits, split, digit⟩ := padded_eq_cons positive number
  rw [split]
  exact blanks_of_visible (isBlank_of_digit digit) _

theorem numeral_padded {width number : Nat} (positive : 0 < width) {digits : Scan (List Char)}
    {chars rest : List Char} (read : digits chars = .done (Numeral.padded width number, rest)) :
    numeral digits chars = .done (number, rest) := by
  have some_digit : (Numeral.padded width number).isEmpty = false := by
    obtain ⟨c, digits, split, -⟩ := padded_eq_cons positive number
    rw [split]
    rfl
  unfold numeral
  rw [bind_of_done read]
  simp only [some_digit, Bool.false_eq_true, if_false, Numeral.value_padded]
  rfl

theorem spanUpTo_padded {width number : Nat} (positive : 0 < width) (short : number < 10 ^ width)
    (rest : List Char) :
    spanUpTo width Char.isDigit (Numeral.padded width number ++ rest) =
      .done (Numeral.padded width number, rest) := by
  have digits : ∀ c ∈ Numeral.padded width number, c.isDigit = true := fun c =>
    Numeral.isDigit_of_mem_padded
  have read := spanUpTo_append digits rest
  rwa [Numeral.length_padded positive short] at read

theorem field_padded {number : Nat} (short : number < 10 ^ 2) (rest : List Char) :
    field (Numeral.padded 2 number ++ rest) = .done (number, rest) :=
  (bind_of_done (blanks_padded (by decide) number rest)).trans
    (numeral_padded (by decide) (spanUpTo_padded (by decide) short rest))

/-- A year is read back from its digits and its sign. -/
theorem year_yearChars (number : Int) {rest : List Char}
    (apart : ∀ c ∈ rest.head?, c.isDigit = false) :
    Reading.year (Date.yearChars number ++ rest) = .done (number, rest) := by
  have digits (number : Nat) :
      span Char.isDigit (Numeral.padded 4 number ++ rest) = .done (Numeral.padded 4 number, rest) :=
    span_append (fun c => Numeral.isDigit_of_mem_padded) apart
  have signed (number : Nat) :
      numeral (span Char.isDigit) (Numeral.padded 4 number ++ rest) = .done (number, rest) :=
    numeral_padded (by decide) (digits number)
  -- The sign of the text picks the alternative; without one, there are just four digits.
  unfold Reading.year Date.yearChars
  split
  · rename_i negative
    have value : -(number.natAbs : Int) = number := by omega
    rw [List.cons_append, bind_of_done (blanks_of_visible (by decide) _)]
    refine orElse_of_done ((seqRight_of_done (char_self '-' _)).trans ?_)
    rw [bind_of_done (signed number.natAbs), value]
    rfl
  · split
    · rename_i positive large
      have value : (number.natAbs : Int) = number := by omega
      have unsigned : Scan.char '-' ('+' :: (Numeral.padded 4 number.natAbs ++ rest)) = .miss :=
        char_of_ne (by decide) _
      rw [List.cons_append, bind_of_done (blanks_of_visible (by decide) _),
        orElse_of_miss (seqRight_of_miss unsigned)]
      refine orElse_of_done ((seqRight_of_done (char_self '+' _)).trans ?_)
      rw [bind_of_done (signed number.natAbs), value]
      rfl
    · rename_i positive small
      have value : (number.natAbs : Int) = number := by omega
      have short : number.natAbs < 10 ^ 4 := by omega
      have unsigned {sign : Char} (other : sign.isDigit = false) :
          Scan.char sign (Numeral.padded 4 number.natAbs ++ rest) = .miss := by
        obtain ⟨c, digits, split, digit⟩ := @padded_eq_cons 4 (by decide) number.natAbs
        rw [split]
        refine char_of_ne ?_ _
        rintro rfl
        rw [other] at digit
        contradiction
      rw [bind_of_done (blanks_padded (by decide) _ _),
        orElse_of_miss (seqRight_of_miss (unsigned (by decide))),
        orElse_of_miss (seqRight_of_miss (unsigned (by decide))),
        bind_of_done (numeral_padded (by decide) (spanUpTo_padded (by decide) short rest)), value]
      rfl

/-- A date is read back from its characters, whatever follows them. -/
theorem date_chars (day : Date) (rest : List Char) :
    Reading.date (day.chars ++ rest) = .done (day, rest) := by
  obtain ⟨year, month, number, valid⟩ := day
  unfold Date.chars Reading.date
  simp only [List.append_assoc, List.cons_append]
  rw [bind_of_done (year_yearChars year (by rintro _ ⟨⟩; decide)), bind_of_done (char_self '-' _),
    bind_of_done (field_padded (Date.month_lt ⟨year, month, number, valid⟩) _),
    bind_of_done (char_self '-' _),
    bind_of_done (field_padded (Date.day_lt ⟨year, month, number, valid⟩) _)]
  rw [Date.of?, dif_pos valid]
  rfl

end Reading

/-- A date is read back from its text. -/
theorem Date.ofText?_toText (day : Date) : Date.ofText? day.toText = some day := by
  refine Scan.whole_eq_some.mpr ?_
  rw [Date.toText, String.toList_ofList, ← List.append_nil day.chars]
  exact Reading.date_chars day []

/-! ## Timestamps -/

/-- The first moment of the second that a time lies in. -/
def Time.toSecond (time : Time) : Time where
  hour := time.hour
  minute := time.minute
  second := time.second
  nanosecond := time.nanosecond / 1000000000 * 1000000000
  valid := by
    obtain ⟨hour, minute, second, nanosecond⟩ := time.valid
    refine ⟨hour, minute, second, ?_⟩
    omega

/-- The first moment of the second that a moment lies in. -/
def Timestamp.toSecond (moment : Timestamp) : Timestamp :=
  ⟨moment.date, moment.time.toSecond⟩

theorem Time.ofClock?_shownSecond (time : Time) :
    Time.ofClock? time.hour time.minute time.shownSecond 0 = some time.toSecond := by
  obtain ⟨hour, minute, second, nanosecond, valid⟩ := time
  obtain ⟨-, -, below, above⟩ := id valid
  have exact {clock nanosecond' : Nat} (second_eq : clock = second)
      (nanosecond_eq : nanosecond' = nanosecond / 1000000000 * 1000000000) :
      Time.of? hour minute clock nanosecond' =
        some (Time.toSecond ⟨hour, minute, second, nanosecond, valid⟩) := by
    subst second_eq nanosecond_eq
    exact dif_pos (Time.toSecond ⟨hour, minute, clock, nanosecond, valid⟩).valid
  unfold Time.ofClock? Time.shownSecond
  dsimp only
  split
  · exact exact (by omega) (by omega)
  · exact exact (by omega) (by omega)

theorem Reading.time_chars (time : Time) (rest : List Char) :
    Reading.time (time.chars ++ rest) = .done (time.toSecond, rest) := by
  change Reading.time ((Numeral.padded 2 time.hour ++ ':' :: Numeral.padded 2 time.minute ++
    ':' :: Numeral.padded 2 time.shownSecond) ++ rest) = _
  unfold Reading.time
  simp only [List.append_assoc, List.cons_append]
  rw [Scan.bind_of_done (field_padded time.hour_lt _), Scan.bind_of_done (Scan.char_self ':' _),
    Scan.bind_of_done (field_padded time.minute_lt _), Scan.bind_of_done (Scan.char_self ':' _),
    Scan.bind_of_done (field_padded time.shownSecond_lt _), Time.ofClock?_shownSecond]
  rfl

/-- The text of a timestamp is read back as the first moment of its second. -/
theorem Timestamp.ofText?_toText (moment : Timestamp) :
    Timestamp.ofText? moment.toText = some moment.toSecond := by
  have read : Reading.dateTime Reading.blanks moment.toText.toList =
      .done (moment.toSecond, []) := by
    have blank : Reading.blanks (' ' :: moment.time.chars) = .done ((), moment.time.chars) := by
      change Reading.blanks moment.time.chars = _
      rw [Time.chars, List.append_assoc]
      exact Reading.blanks_padded (by decide) moment.time.hour _
    have time := Reading.time_chars moment.time []
    rw [List.append_nil] at time
    rw [toText, String.toList_ofList, Reading.dateTime,
      Scan.bind_of_done (Reading.date_chars moment.date _), Scan.bind_of_done blank,
      Scan.bind_of_done time]
    rfl
  rw [Timestamp.ofText?, Scan.whole_eq_some.mpr read]
  rfl

/-! ## Whole seconds -/

/-- Whether a time is the first moment of a second; a leap second is one of its own. -/
def Time.IsWhole (time : Time) : Prop :=
  time.nanosecond % 1000000000 = 0

/-- Whether a moment is the first of a second. -/
def Timestamp.IsWhole (moment : Timestamp) : Prop :=
  moment.time.IsWhole

instance (moment : Timestamp) : Decidable moment.IsWhole :=
  inferInstanceAs (Decidable (_ = _))

theorem Timestamp.toSecond_eq_self_iff {moment : Timestamp} :
    moment.toSecond = moment ↔ moment.IsWhole := by
  obtain ⟨date, hour, minute, second, nanosecond, valid⟩ := moment
  simp only [toSecond, Time.toSecond, IsWhole, Time.IsWhole, mk.injEq, Time.mk.injEq, true_and]
  omega

theorem Time.nanosecond_of_of? {hour minute second nanosecond : Nat} {time : Time}
    (found : of? hour minute second nanosecond = some time) : time.nanosecond = nanosecond := by
  obtain ⟨valid, same⟩ := Option.dite_none_right_eq_some.mp found
  obtain rfl := Option.some.inj same
  rfl

theorem Time.isWhole_of_ofClock? {hour minute second : Nat} {time : Time}
    (found : ofClock? hour minute second 0 = some time) : time.IsWhole := by
  unfold ofClock? at found
  split at found <;> rw [IsWhole, nanosecond_of_of? found]

/-- A clock that is set back shows the same fraction of a second. -/
theorem Timestamp.isWhole_of_back? {moment moved : Timestamp} {minutes : Int}
    (whole : moment.IsWhole) (found : moment.back? minutes = some moved) : moved.IsWhole := by
  -- Whichever day it is, the second and its fraction are taken over.
  have same_second {day : Option Date} {hour minute : Nat}
      (found : (day.bind fun date =>
        (Time.of? hour minute moment.time.second moment.time.nanosecond).bind fun time =>
          some ⟨date, time⟩) = some moved) : moved.IsWhole := by
    obtain ⟨date, -, found⟩ := Option.bind_eq_some_iff.mp found
    obtain ⟨time, clock, same⟩ := Option.bind_eq_some_iff.mp found
    obtain rfl := Option.some.inj same
    rw [IsWhole, Time.IsWhole, Time.nanosecond_of_of? clock]
    exact whole
  simp only [back?, Option.bind_eq_bind] at found
  split at found
  · exact same_second found
  · split at found <;> exact same_second found

namespace Reading

open Scan

theorem isWhole_of_time {chars rest : List Char} {time : Time}
    (read : Reading.time chars = .done (time, rest)) : time.IsWhole := by
  simp only [Reading.time, bind_eq_done, given_eq_done] at read
  obtain ⟨hour, _, -, _, _, -, minute, _, -, _, _, -, second, _, -, clock, -⟩ := read
  exact Time.isWhole_of_ofClock? clock

theorem isWhole_of_dateTime {between : Scan Unit} {chars rest : List Char} {moment : Timestamp}
    (read : dateTime between chars = .done (moment, rest)) : moment.IsWhole := by
  simp only [dateTime, bind_eq_done, pure_eq_done] at read
  obtain ⟨date, _, -, _, _, -, time, _, clock, rfl, -⟩ := read
  exact isWhole_of_time clock

theorem fixed_subset {width number : Nat} {chars rest : List Char}
    (read : fixed width chars = .done (number, rest)) : rest ⊆ chars := by
  obtain ⟨digits, left, front, read⟩ := bind_eq_done.mp read
  obtain ⟨rfl, rfl⟩ := Prod.mk.inj (Attempt.done.inj front)
  dsimp only at read
  split at read
  · contradiction
  · obtain ⟨-, rfl⟩ := pure_eq_done.mp read
    exact List.drop_subset _ chars

/-- Without a point, there is no fraction of a second. -/
theorem isWhole_of_universal {chars rest : List Char} {moment : Timestamp}
    (read : universal chars = .done (moment, rest)) (no_point : '.' ∉ chars) : moment.IsWhole := by
  simp only [universal, bind_eq_done, orElse_eq_done, seqRight_eq_done, char_eq_done,
    satisfy_eq_done, pure_eq_done, given_eq_done] at read
  obtain ⟨year, _, year_read, _, behind_year, rfl, month, _, month_read, _, behind_month, rfl,
    day, _, day_read, _, behind_day, ⟨rfl, -⟩, hour, _, hour_read, _, behind_hour, rfl,
    minute, _, minute_read, _, behind_minute, rfl, second, left, second_read,
    nanosecond, _, fraction, distance, _, -, date, _, -, time, _, ⟨clock, -⟩, moved, -⟩ := read
  -- What the fields leave is a part of the text, so that no point is left for a fraction.
  have kept : left ⊆ chars := by
    refine fun c member => fixed_subset year_read (.tail _ ?_)
    refine fixed_subset month_read (.tail _ (fixed_subset day_read (.tail _ ?_)))
    refine fixed_subset hour_read (.tail _ (fixed_subset minute_read (.tail _ ?_)))
    exact fixed_subset second_read member
  rcases fraction with ⟨_, _, rfl, -⟩ | ⟨-, _, _, -, rfl, -⟩
  · exact absurd (kept List.mem_cons_self) no_point
  · exact Timestamp.isWhole_of_back? (Time.isWhole_of_ofClock? clock) moved

end Reading

/-- A text without a point stands for a whole second. -/
theorem Timestamp.isWhole_of_no_point {text : String} {moment : Timestamp}
    (read : ofText? text = some moment) (no_point : '.' ∉ text.toList) : moment.IsWhole := by
  simp only [ofText?, Option.orElse_eq_some, Scan.whole_eq_some] at read
  rcases read with read | ⟨-, read | ⟨-, read | ⟨-, read⟩⟩⟩
  · exact Reading.isWhole_of_dateTime read
  · exact Reading.isWhole_of_dateTime read
  · exact Reading.isWhole_of_universal read no_point
  · obtain ⟨date, -, rfl⟩ := Option.map_eq_some_iff.mp read
    rfl

end SqlEngine
