import SqlEngine.Proofs.Layout

/-!
# Reading marks

A scanner reads some marks if it succeeds wherever they are written, and rejects them if it fails
wherever they are written.  What a scanner reads is known from what its parts read and reject.
Where a part may be left out or repeated, the marks behind it must not look like one more of it.
-/

namespace SqlEngine
namespace Wording

open Grammar Scan

variable {α β : Type} {start : List Char → Prop}

/-- Whether a text does not start with a space. -/
def Tight (text : List Char) : Prop :=
  text.dropWhile isSpace = text

/-- Any text. -/
abbrev AnyText : List Char → Prop :=
  fun _ => True

/-- Any marks. -/
abbrev AnyMarks : List Mark → Prop :=
  fun _ => True

/-- Whether a scanner reads marks at the start of certain texts, if the marks behind them meet a
condition.  It gives a value with a given meaning and leaves the marks behind.  Every mark takes up
a character. -/
def ReadsFrom (start : List Char → Prop) (item : Scan α) (marks : List Mark) (meaning : α → Prop)
    (next : List Mark → Prop) : Prop :=
  ∀ ⦃others text⦄, next others → start text → Written (marks ++ others) text →
    ∃ value left, item text = .done (value, left) ∧ meaning value ∧ Written others left ∧
      left.length + marks.length ≤ text.length

/-- Whether a scanner fails on marks at the start of certain texts. -/
def RejectsFrom (start : List Char → Prop) (item : Scan α) (marks : List Mark) : Prop :=
  ∀ ⦃text⦄, start text → Written marks text → item text = .miss

/-- Whether a scanner reads marks wherever they are written. -/
abbrev Reads : Scan α → List Mark → (α → Prop) → (List Mark → Prop) → Prop :=
  ReadsFrom AnyText

/-- Whether a scanner fails wherever marks are written. -/
abbrev Rejects : Scan α → List Mark → Prop :=
  RejectsFrom AnyText

theorem RejectsFrom.bind {item : Scan α} {next : α → Scan β} {marks : List Mark}
    (rejects : RejectsFrom start item marks) : RejectsFrom start (item >>= next) marks :=
  fun _ started written => bind_of_miss (rejects started written)

theorem RejectsFrom.map {item : Scan α} {change : α → β} {marks : List Mark}
    (rejects : RejectsFrom start item marks) : RejectsFrom start (change <$> item) marks :=
  show RejectsFrom start (item >>= fun value => Pure.pure (change value)) marks from rejects.bind

theorem RejectsFrom.orElse {first second : Scan α} {marks : List Mark}
    (here : RejectsFrom start first marks) (there : RejectsFrom start second marks) :
    RejectsFrom start (first <|> second) marks := fun _ started written => by
  rw [orElse_of_miss (here started written)]
  exact there started written

theorem RejectsFrom.consumed {item : Scan α} {marks : List Mark}
    (rejects : RejectsFrom start item marks) : RejectsFrom start (Scan.consumed item) marks :=
  fun _ started written => by
  rw [Scan.consumed, rejects started written, Attempt.miss_bind]

theorem RejectsFrom.of_rejects {item : Scan α} {marks : List Mark} (rejects : Rejects item marks) :
    RejectsFrom start item marks := fun _ _ written => rejects trivial written

namespace ReadsFrom

variable {item first second : Scan α} {marks front rest : List Mark} {meaning : α → Prop}
  {result : β → Prop} {next last : List Mark → Prop}

theorem mono {meaning' : α → Prop} {next' : List Mark → Prop}
    (reads : ReadsFrom start item marks meaning next)
    (means : ∀ value, meaning value → meaning' value)
    (follows : ∀ others, next' others → next others) :
    ReadsFrom start item marks meaning' next' := fun others _ behind started written => by
  obtain ⟨value, left, read, means', others, shorter⟩ :=
    reads (follows others behind) started written
  exact ⟨value, left, read, means value means', others, shorter⟩

theorem of_any (reads : ReadsFrom start item marks meaning AnyMarks) :
    ReadsFrom start item marks meaning next :=
  reads.mono (fun _ means => means) fun _ _ => trivial

theorem of_reads (reads : Reads item marks meaning next) :
    ReadsFrom start item marks meaning next :=
  fun _ _ behind _ written => reads behind trivial written

theorem pure {value : α} (means : meaning value) :
    ReadsFrom start (Pure.pure value : Scan α) [] meaning next :=
  fun _ text _ _ written => ⟨value, text, rfl, means, written, Nat.le_refl _⟩

/-- One scanner behind another reads the marks of both. -/
theorem bindBefore {step : α → Scan β} (here : ReadsFrom start item front meaning next)
    (there : ∀ value, meaning value → Reads (step value) rest result last)
    (follows : ∀ others, last others → next (rest ++ others)) :
    ReadsFrom start (item >>= step) (front ++ rest) result last := by
  intro others text behind started written
  rw [List.append_assoc] at written
  obtain ⟨value, left, read, means, written, shorter⟩ :=
    here (follows others behind) started written
  obtain ⟨value', left', read', means', written, shorter'⟩ :=
    there value means behind trivial written
  refine ⟨value', left', (bind_of_done read).trans read', means', written, ?_⟩
  rw [List.length_append]
  omega

theorem bind {step : α → Scan β} (here : ReadsFrom start item front meaning AnyMarks)
    (there : ∀ value, meaning value → Reads (step value) rest result last) :
    ReadsFrom start (item >>= step) (front ++ rest) result last :=
  here.bindBefore there fun _ _ => trivial

/-- A scanner of one mark in front. -/
theorem cons {mark : Mark} {step : α → Scan β} (here : ReadsFrom start item [mark] meaning AnyMarks)
    (there : ∀ value, meaning value → Reads (step value) rest result last) :
    ReadsFrom start (item >>= step) (mark :: rest) result last :=
  here.bind there

/-- A change to the value that is read. -/
theorem map {change : α → β} (here : ReadsFrom start item marks meaning next)
    (means : ∀ value, meaning value → result (change value)) :
    ReadsFrom start (item >>= fun value => Pure.pure (change value)) marks result next := by
  have read : ReadsFrom start (item >>= fun value => Pure.pure (change value)) (marks ++ [])
      result next :=
    here.bindBefore (fun value means' => pure (means value means')) fun _ behind => behind
  rwa [List.append_nil] at read

theorem orElse_left (here : ReadsFrom start first marks meaning next) :
    ReadsFrom start (first <|> second) marks meaning next := fun _ _ behind started written => by
  obtain ⟨value, left, read, all⟩ := here behind started written
  exact ⟨value, left, orElse_of_done read, all⟩

theorem orElse_right (rejects : ∀ others, next others → RejectsFrom start first (marks ++ others))
    (there : ReadsFrom start second marks meaning next) :
    ReadsFrom start (first <|> second) marks meaning next := by
  intro others _ behind started written
  rw [orElse_of_miss (rejects others behind started written)]
  exact there behind started written

theorem consumed (here : ReadsFrom start item marks meaning next) :
    ReadsFrom start (Scan.consumed item) marks (fun _ => True) next :=
  fun _ _ behind started written => by
  obtain ⟨value, left, read, -, others⟩ := here behind started written
  exact ⟨_, left, by rw [Scan.consumed, read]; rfl, trivial, others⟩

/-- A scanner fails if its first part reads marks and the second rejects what is behind them. -/
theorem rejects_bind {step : α → Scan β} (here : ReadsFrom start item front meaning AnyMarks)
    (there : ∀ value, meaning value → Rejects (step value) rest) :
    RejectsFrom start (item >>= step) (front ++ rest) := fun _ started written => by
  obtain ⟨value, left, read, means, written, -⟩ := here trivial started written
  exact (bind_of_done read).trans (there value means trivial written)

theorem rejects_cons {mark : Mark} {step : α → Scan β}
    (here : ReadsFrom start item [mark] meaning AnyMarks)
    (there : ∀ value, meaning value → Rejects (step value) rest) :
    RejectsFrom start (item >>= step) (mark :: rest) :=
  here.rejects_bind there

/-! ## Parts that may be left out or repeated -/

variable {write : β → List Mark} {related : α → β → Prop}

theorem optionally {part : Option β}
    (reads : ∀ value ∈ part, ReadsFrom start item (write value) (related · value) next)
    (rejects : ∀ others, next others → RejectsFrom start item others) :
    ReadsFrom start (optional item) (given write part)
      (fun found => Option.Rel related found part) next := by
  cases part with
  | none => exact .orElse_right (fun others behind => (rejects others behind).map) (.pure .none)
  | some value => exact .orElse_left ((reads value rfl).map fun _ same => .some same)

theorem said {present : Bool} (reads : ReadsFrom start item marks meaning next)
    (rejects : ∀ others, next others → RejectsFrom start item others) :
    ReadsFrom start (optional item) (said present marks)
      (fun found => found.isSome = present ∧ ∀ value ∈ found, meaning value) next := by
  cases present with
  | false =>
      refine .orElse_right (fun others behind => (rejects others behind).map) (.pure ⟨rfl, ?_⟩)
      exact fun _ contra => nomatch contra
  | true =>
      refine .orElse_left (reads.map fun value means => ⟨rfl, ?_⟩)
      rintro _ ⟨⟩
      exact means

theorem many {items : List β} {inner : List Mark → Prop}
    (each : ∀ value ∈ items, Reads item (write value) (related · value) inner)
    (nonempty : ∀ value ∈ items, write value ≠ [])
    (follows : ∀ others, next others → ∀ values : List β, inner (values.flatMap write ++ others))
    (rejects : ∀ others, next others → Rejects item others) :
    Reads (many item) (items.flatMap write) (fun found => List.Forall₂ related found items)
      next := by
  -- Every item takes up a character, so that the repetition does not stop before the last.
  intro others text behind _ written
  induction items generalizing text with
  | nil =>
      exact ⟨[], text, many_of_miss (rejects others behind trivial written), .nil, written,
        Nat.le_refl _⟩
  | cons value items induction =>
      obtain ⟨reads, all⟩ := List.forall_mem_cons.mp each
      obtain ⟨here, there⟩ := List.forall_mem_cons.mp nonempty
      rw [List.flatMap_cons, List.append_assoc] at written
      obtain ⟨found, left, read, same, written, shorter⟩ :=
        reads (follows others behind items) trivial written
      obtain ⟨founds, final, read', same', written, shorter'⟩ := induction all there trivial written
      have moved : left.length < text.length := by
        have := List.length_pos_of_ne_nil here
        omega
      refine ⟨found :: founds, final, many_of_done read moved read', .cons same same', written, ?_⟩
      rw [List.flatMap_cons, List.length_append]
      omega

theorem seqRight {other : Scan β} (here : ReadsFrom start item front meaning AnyMarks)
    (there : Reads other rest result last) :
    ReadsFrom start (item *> other) (front ++ rest) result last :=
  here.bind fun _ _ => there

theorem sepBy1 {γ : Type} {separator : Scan γ} {between : Mark} {items : Several β}
    {inner : List Mark → Prop}
    (each : ∀ value ∈ items.toList, Reads item (write value) (related · value) inner)
    (separates : Reads separator [between] (fun _ => True) AnyMarks)
    (again : ∀ others, inner (between :: others)) (follows : ∀ others, next others → inner others)
    (rejects : ∀ others, next others → Rejects separator others) :
    Reads (sepBy1 separator item) (separated between write items)
      (fun found => List.Forall₂ related found items.toList) next := by
  obtain ⟨first, others⟩ := items
  obtain ⟨reads, all⟩ := List.forall_mem_cons.mp each
  have behind {marks : List Mark} (ends : next marks) (values : List β) :
      inner (values.flatMap (fun value => between :: write value) ++ marks) := by
    cases values with
    | nil => exact follows marks ends
    | cons value values => exact again _
  refine reads.bindBefore (fun found same => ?_) fun _ ends => behind ends others
  refine (many (fun value member => separates.seqRight (all value member))
    (fun _ _ => List.cons_ne_nil _ _) (fun _ => behind) ?_).map fun founds all => .cons same all
  exact fun others ends => (rejects others ends).bind

end ReadsFrom

/-! ## Spaces around an item -/

theorem spaced_eq {item : Scan α} (text : List Char) :
    spaced item text =
      item (text.dropWhile isSpace) >>= fun found =>
        pure (found.1, found.2.dropWhile isSpace) := by
  have skip (text : List Char) :
      span isSpace text = .done (text.takeWhile isSpace, text.dropWhile isSpace) := rfl
  unfold spaced
  rw [bind_of_done (skip text)]
  cases read : item (text.dropWhile isSpace) with
  | done found => exact (bind_of_done read).trans (bind_of_done (skip _))
  | miss => exact bind_of_miss read
  | broken => exact bind_of_broken read

theorem tight_dropWhile (text : List Char) : Tight (text.dropWhile isSpace) :=
  List.dropWhile_idempotent isSpace text

/-- Spaces around marks do no harm to a scanner that skips them. -/
theorem ReadsFrom.spaced {item : Scan α} {marks : List Mark} {meaning : α → Prop}
    {next : List Mark → Prop} (reads : ReadsFrom Tight item marks meaning next) :
    Reads (spaced item) marks meaning next := by
  intro others text behind _ written
  obtain ⟨value, left, read, means, others, shorter⟩ :=
    reads behind (tight_dropWhile text) written.dropSpaces
  refine ⟨value, left.dropWhile isSpace, by rw [spaced_eq, read]; rfl, means, others.dropSpaces, ?_⟩
  have := List.length_dropWhile_le isSpace left
  have := List.length_dropWhile_le isSpace text
  omega

theorem RejectsFrom.spaced {item : Scan α} {marks : List Mark}
    (rejects : RejectsFrom Tight item marks) : Rejects (spaced item) marks := by
  intro text _ written
  rw [spaced_eq, rejects (tight_dropWhile text) written.dropSpaces]
  rfl

/-- A scanner of one mark, by the ways to write the mark. -/
theorem readsFrom_tight {item : Scan α} {mark : Mark} {meaning : α → Prop}
    (reads : ∀ chars rest, mark.Spelled chars → (∀ c ∈ rest.head?, mark.runsInto c = false) →
      ∃ value, item (chars ++ rest) = .done (value, rest) ∧ meaning value) :
    ReadsFrom Tight item [mark] meaning AnyMarks := by
  intro others text _ tight written
  obtain ⟨chars, rest, split, spelled, apart, behind, shorter⟩ := written.uncons
  obtain ⟨value, read, means⟩ := reads chars rest spelled apart
  rw [tight] at split
  rw [split] at shorter ⊢
  exact ⟨value, rest, read, means, behind, shorter⟩

theorem rejectsFrom_tight {item : Scan α} {marks : List Mark} (empty : item [] = .miss)
    (rejects : ∀ mark ∈ marks.head?, ∀ chars rest, mark.Spelled chars →
      (∀ c ∈ rest.head?, mark.runsInto c = false) → item (chars ++ rest) = .miss) :
    RejectsFrom Tight item marks := by
  intro text tight written
  cases marks with
  | nil =>
      cases written with
      | blank spaces =>
          rw [← tight, List.dropWhile_eq_nil_iff.mpr spaces]
          exact empty
  | cons mark others =>
      obtain ⟨chars, rest, split, spelled, apart, -, -⟩ := written.uncons
      rw [← tight, split]
      exact rejects mark rfl chars rest spelled apart

end Wording
end SqlEngine
