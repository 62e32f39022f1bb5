import SqlEngine.Proofs.Comparisons

/-!
# Families of values

Two values compare alike from both sides.  Values of one family always compare, and their order is
that of the contents that they stand for: numbers, texts, truth values, or moments, where a day
stands for its first moment.  So it is a total preorder on each family.
-/

namespace SqlEngine

instance : Std.TransCmp Date.compare :=
  inferInstanceAs (Std.TransCmp (compareLex (compareOn Date.year)
    (compareLex (compareOn Date.month) (compareOn Date.day))))

instance : Std.TransCmp Time.compare :=
  inferInstanceAs (Std.TransCmp (compareLex (compareOn Time.hour)
    (compareLex (compareOn Time.minute)
      (compareLex (compareOn Time.second) (compareOn Time.nanosecond)))))

instance : Std.TransCmp Timestamp.compare :=
  letI : Ord Date := ⟨Date.compare⟩
  letI : Ord Time := ⟨Time.compare⟩
  haveI : Std.TransOrd Date := inferInstanceAs (Std.TransCmp Date.compare)
  haveI : Std.TransOrd Time := inferInstanceAs (Std.TransCmp Time.compare)
  inferInstanceAs (Std.TransCmp (compareLex (compareOn Timestamp.date) (compareOn Timestamp.time)))

/-! ## Both sides of a comparison -/

theorem Binary64.compare?_mirrored (left right : Binary64) :
    right.compare? left = (left.compare? right).map Ordering.swap := by
  cases left with
  | nan => cases right <;> rfl
  | signed negative rank =>
      cases right with
      | nan => rfl
      | signed negative' rank' => exact congrArg some Std.OrientedCmp.eq_swap

namespace Value

private theorem map_eq_map_swap {α : Type} {order reverse : α → Ordering}
    (swaps : ∀ item, reverse item = (order item).swap) (read : Option α) :
    read.map reverse = (read.map order).map Ordering.swap := by
  rw [Option.map_map]
  exact congrArg read.map (funext swaps)

/-- Two values compare alike from both sides. -/
theorem compare?_mirrored (left right : Value) :
    right.compare? left = (left.compare? right).map Ordering.swap := by
  cases left with
  | null => cases right <;> rfl
  | integer number =>
      cases right with
      | integer other => exact congrArg some Std.OrientedCmp.eq_swap
      | real other => exact Binary64.compare?_mirrored (asReal number) other
      | _ => rfl
  | real number =>
      cases right with
      | integer other => exact Binary64.compare?_mirrored number (asReal other)
      | real other => exact Binary64.compare?_mirrored number other
      | _ => rfl
  | text content =>
      cases right with
      | text other => exact congrArg some Std.OrientedCmp.eq_swap
      | date day =>
          exact map_eq_map_swap (fun spelled : Date => Std.OrientedCmp.eq_swap) (Date.ofText? content)
      | timestamp moment =>
          exact map_eq_map_swap (fun spelled : Timestamp => Std.OrientedCmp.eq_swap)
            (Timestamp.ofText? content)
      | _ => rfl
  | boolean truth =>
      cases right with
      | boolean other => exact congrArg some Std.OrientedCmp.eq_swap
      | _ => rfl
  | date day =>
      cases right with
      | text content =>
          exact map_eq_map_swap (fun spelled : Date => Std.OrientedCmp.eq_swap) (Date.ofText? content)
      | date other => exact congrArg some Std.OrientedCmp.eq_swap
      | timestamp moment => exact congrArg some Std.OrientedCmp.eq_swap
      | _ => rfl
  | timestamp moment =>
      cases right with
      | text content =>
          exact map_eq_map_swap (fun spelled : Timestamp => Std.OrientedCmp.eq_swap)
            (Timestamp.ofText? content)
      | date day => exact congrArg some Std.OrientedCmp.eq_swap
      | timestamp other => exact congrArg some Std.OrientedCmp.eq_swap
      | _ => rfl

end Value

/-! ## Families -/

/-- A day has the same order to another as their first moments. -/
theorem Date.atMidnight_compare (left right : Date) :
    left.atMidnight.compare right.atMidnight = left.compare right := by
  rw [Timestamp.compare, atMidnight, atMidnight, Time.compare_eq_iff.mpr rfl, Ordering.then_eq]

/-- A family of values, any two of which compare. -/
inductive Family where
  /-- Whole numbers. -/
  | integers
  /-- Floating-point numbers without the NaN. -/
  | reals
  /-- Texts. -/
  | texts
  /-- Truth values. -/
  | booleans
  /-- Days and moments. -/
  | moments

namespace Family

/-- Whether a value belongs to a family. -/
def Contains : Family → Value → Prop
  | integers, .integer _ => True
  | reals, .real number => number ≠ .nan
  | texts, .text _ => True
  | booleans, .boolean _ => True
  | moments, .date _ | moments, .timestamp _ => True
  | _, _ => False

/-- The values of a family stand for contents, and compare as these do. -/
theorem exists_contents (family : Family) :
    ∃ (α : Type) (content : α → Value) (order : α → α → Ordering), Std.TransCmp order ∧
      (∀ left right, (content left).compare? (content right) = some (order left right)) ∧
      ∀ value, family.Contains value → ∃ inside, value = content inside := by
  cases family with
  | integers =>
      refine ⟨Int64, .integer, compareOn Int64.toInt, inferInstance, fun _ _ => rfl, ?_⟩
      intro value contained
      cases value with
      | integer number => exact ⟨number, rfl⟩
      | _ => contradiction
  | reals =>
      refine ⟨Bool × Binary64.Rank, fun number => .real (.signed number.1 number.2),
        compareOn fun number => Binary64.place number.1 number.2, inferInstance, fun _ _ => rfl, ?_⟩
      intro value contained
      cases value with
      | real number =>
          cases number with
          | nan => contradiction
          | signed negative rank => exact ⟨(negative, rank), rfl⟩
      | _ => contradiction
  | texts =>
      refine ⟨String, .text, compare, inferInstance, fun _ _ => rfl, ?_⟩
      intro value contained
      cases value with
      | text content => exact ⟨content, rfl⟩
      | _ => contradiction
  | booleans =>
      refine ⟨Bool, .boolean, compare, inferInstance, fun _ _ => rfl, ?_⟩
      intro value contained
      cases value with
      | boolean truth => exact ⟨truth, rfl⟩
      | _ => contradiction
  | moments =>
      let _ : Ord Timestamp := ⟨Timestamp.compare⟩
      have : Std.TransOrd Timestamp := inferInstanceAs (Std.TransCmp Timestamp.compare)
      refine ⟨Date ⊕ Timestamp, Sum.elim .date .timestamp,
        compareOn (Sum.elim Date.atMidnight id), inferInstance, ?_, ?_⟩
      · rintro (day | moment) (day' | moment')
        · exact congrArg some (Date.atMidnight_compare day day').symm
        all_goals rfl
      · intro value contained
        cases value with
        | date day => exact ⟨.inl day, rfl⟩
        | timestamp moment => exact ⟨.inr moment, rfl⟩
        | _ => contradiction

end Family

/-- Two values compare alike from both sides.  Integers, reals other than the NaN, texts, truth
values, and days together with moments are families: any two values of one compare, and a value
that is not greater than a second, which is not greater than a third, is not greater than that. -/
theorem Value.totally_preordered_in_families (first second third : Value) :
    second.compare? first = (first.compare? second).map Ordering.swap ∧
      ∀ family : Family, family.Contains first → family.Contains second → family.Contains third →
        (∃ order, first.compare? second = some order) ∧
          (first.compare? second ≠ some .gt → second.compare? third ≠ some .gt →
            first.compare? third ≠ some .gt) := by
  refine ⟨compare?_mirrored first second, fun family contained contained' contained'' => ?_⟩
  obtain ⟨α, content, order, transitive, compared, contents⟩ := family.exists_contents
  obtain ⟨left, rfl⟩ := contents first contained
  obtain ⟨middle, rfl⟩ := contents second contained'
  obtain ⟨right, rfl⟩ := contents third contained''
  refine ⟨⟨order left middle, compared left middle⟩, ?_⟩
  have chained : (order left middle).isLE → (order middle right).isLE → (order left right).isLE :=
    Std.TransCmp.isLE_trans
  simpa only [compared, ne_eq, Option.some.injEq, ← Ordering.ne_gt_iff_isLE] using chained

/-- A day is not greater than its first moment, which is not greater than the day, and both are not
greater than its last second. -/
theorem Value.day_among_moments :
    let day : Date := ⟨2024, 2, 29, by decide⟩
    let midnight := timestamp day.atMidnight
    let last := timestamp ⟨day, ⟨23, 59, 59, 0, by decide⟩⟩
    Family.moments.Contains midnight ∧ Family.moments.Contains (date day) ∧
      Family.moments.Contains last ∧ midnight.compare? (date day) = some .eq ∧
      (date day).compare? last = some .lt ∧ midnight.compare? last ≠ some .gt := by
  intro day midnight last
  have same : midnight.compare? (date day) = some .eq := by decide +kernel
  have before : (date day).compare? last = some .lt := by decide +kernel
  obtain ⟨-, ordered⟩ := totally_preordered_in_families midnight (date day) last
  exact ⟨trivial, trivial, trivial, same, before,
    (ordered .moments trivial trivial trivial).2 (by simp [same]) (by simp [before])⟩

end SqlEngine
