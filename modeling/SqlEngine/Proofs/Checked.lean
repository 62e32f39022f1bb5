import Mathlib.Data.List.Forall2

/-!
# Checked computations

A computation that may fail is taken apart at its steps: it succeeds where all of them do, and it
fails with the fault of the first that fails.
-/

namespace SqlEngine
namespace Checked

variable {ε α β σ : Type}

theorem bind_eq_ok {first : Except ε α} {next : α → Except ε β} {result : β} :
    first >>= next = .ok result ↔ ∃ value, first = .ok value ∧ next value = .ok result := by
  cases first <;> simp [bind, Except.bind]

theorem bind_eq_error {first : Except ε α} {next : α → Except ε β} {fault : ε} :
    first >>= next = .error fault ↔
      first = .error fault ∨ ∃ value, first = .ok value ∧ next value = .error fault := by
  cases first <;> simp [bind, Except.bind]

theorem pure_eq_ok {value result : α} :
    (pure value : Except ε α) = .ok result ↔ value = result := by
  simp [pure, Except.pure]

theorem pure_ne_error {value : α} {fault : ε} : (pure value : Except ε α) ≠ .error fault := by
  simp [pure, Except.pure]

/-- A list is checked item by item. -/
theorem mapM_eq_ok {check : α → Except ε β} {items : List α} {results : List β} :
    items.mapM check = .ok results ↔
      List.Forall₂ (fun item result => check item = .ok result) items results := by
  induction items generalizing results with
  | nil => cases results <;> simp [pure, Except.pure]
  | cons item items induction =>
      simp only [List.mapM_cons, bind_eq_ok, pure_eq_ok, List.forall₂_cons_left_iff, induction]
      constructor
      · rintro ⟨result, first, rest, others, rfl⟩
        exact ⟨result, rest, first, others, rfl⟩
      · rintro ⟨result, rest, first, others, rfl⟩
        exact ⟨result, first, rest, others, rfl⟩

/-- A list fails at the first of its items that fails. -/
theorem exists_of_mapM_eq_error {check : α → Except ε β} {items : List α} {fault : ε}
    (failed : items.mapM check = .error fault) :
    ∃ front item back, items = front ++ item :: back ∧
      (∀ item ∈ front, ∃ result, check item = .ok result) ∧ check item = .error fault := by
  induction items with
  | nil => exact absurd failed pure_ne_error
  | cons item items induction =>
      rw [List.mapM_cons, bind_eq_error] at failed
      rcases failed with first | ⟨result, first, others⟩
      · exact ⟨[], item, items, rfl, by simp, first⟩
      · rcases bind_eq_error.mp others with others | ⟨_, _, others⟩
        · obtain ⟨front, found, back, rfl, passed, failing⟩ := induction others
          exact ⟨item :: front, found, back, rfl,
            List.forall_mem_cons.mpr ⟨⟨result, first⟩, passed⟩, failing⟩
        · exact absurd others pure_ne_error

/-- Every item of a list related to another comes from an item of that one. -/
theorem exists_of_mem_right {related : α → β → Prop} {items : List α} {results : List β}
    (all : List.Forall₂ related items results) {result : β} (member : result ∈ results) :
    ∃ item ∈ items, related item result := by
  induction all with
  | nil => cases member
  | @cons item first items results head _ induction =>
      rcases List.mem_cons.mp member with rfl | member
      · exact ⟨item, List.mem_cons_self, head⟩
      · obtain ⟨found, inside, holds⟩ := induction member
        exact ⟨found, List.mem_cons_of_mem item inside, holds⟩

/-- Where every item is related to something, the items are related to a list. -/
theorem exists_forall₂ {related : α → β → Prop} {items : List α}
    (each : ∀ item ∈ items, ∃ result, related item result) :
    ∃ results, List.Forall₂ related items results := by
  induction items with
  | nil => exact ⟨[], .nil⟩
  | cons item items induction =>
      obtain ⟨⟨result, first⟩, others⟩ := List.forall_mem_cons.mp each
      obtain ⟨results, rest⟩ := induction others
      exact ⟨result :: results, .cons first rest⟩

/-- Lists that are related through something between each two items are so through a list. -/
theorem exists_between {γ : Type} {first : α → β → Prop} {second : β → γ → Prop}
    {items : List α} {results : List γ}
    (related : List.Forall₂ (fun item result => ∃ middle, first item middle ∧ second middle result)
      items results) :
    ∃ middles, List.Forall₂ first items middles ∧ List.Forall₂ second middles results := by
  induction related with
  | nil => exact ⟨[], .nil, .nil⟩
  | cons head _ induction =>
      obtain ⟨middle, here, there⟩ := head
      obtain ⟨middles, firsts, seconds⟩ := induction
      exact ⟨middle :: middles, .cons here firsts, .cons there seconds⟩

/-- In related lists, items in one place are related. -/
theorem related_of_getElem? {related : α → β → Prop} {items : List α} {results : List β}
    (all : List.Forall₂ related items results) {place : Nat} {item : α} {result : β}
    (here : items[place]? = some item) (there : results[place]? = some result) :
    related item result := by
  obtain ⟨inside, rfl⟩ := List.getElem?_eq_some_iff.mp here
  obtain ⟨present, rfl⟩ := List.getElem?_eq_some_iff.mp there
  exact List.Forall₂.get all inside present

theorem forM_eq_ok {check : α → Except ε Unit} {items : List α} :
    items.forM check = .ok () ↔ ∀ item ∈ items, check item = .ok () := by
  induction items with
  | nil => simp [pure, Except.pure]
  | cons item items induction =>
      rw [show (item :: items).forM check = check item >>= fun _ => items.forM check from rfl,
        bind_eq_ok, List.forall_mem_cons]
      constructor
      · rintro ⟨_, first, others⟩
        exact ⟨first, induction.mp others⟩
      · rintro ⟨first, others⟩
        exact ⟨(), first, induction.mpr others⟩

/-- What every step of a fold keeps, the whole fold keeps. -/
theorem foldlM_keeps {step : σ → α → Except ε σ} {kept : σ → Prop} {items : List α}
    (keeps : ∀ item ∈ items, ∀ before after, step before item = .ok after → kept before →
      kept after)
    {start final : σ} (folded : items.foldlM step start = .ok final) (first : kept start) :
    kept final := by
  induction items generalizing start with
  | nil =>
      obtain rfl := pure_eq_ok.mp folded
      exact first
  | cons item items induction =>
      rw [List.foldlM_cons] at folded
      obtain ⟨middle, stepped, rest⟩ := bind_eq_ok.mp folded
      exact induction (fun other member => keeps other (List.mem_cons_of_mem item member)) rest
        (keeps item List.mem_cons_self start middle stepped first)

/-! ## The faults that a computation can fail with -/

variable {allowed : ε → Prop}

/-- Whether a computation only fails with faults of a given set. -/
def Raises (allowed : ε → Prop) (outcome : Except ε α) : Prop :=
  ∀ fault, outcome = .error fault → allowed fault

namespace Raises

@[simp]
theorem ok (value : α) : Raises allowed (.ok value) := by
  simp [Raises]

@[simp]
theorem pure (value : α) : Raises allowed (Pure.pure value : Except ε α) :=
  ok value

@[simp]
theorem error_iff {fault : ε} : Raises allowed (.error fault : Except ε α) ↔ allowed fault := by
  simp [Raises]

@[simp]
theorem bind_iff {first : Except ε α} {next : α → Except ε β} :
    Raises allowed (first >>= next) ↔
      Raises allowed first ∧ ∀ value, first = .ok value → Raises allowed (next value) := by
  cases first with
  | ok value => simp [bind, Except.bind]
  | error fault => simp [bind, Except.bind]

@[simp]
theorem map_iff {change : α → β} {outcome : Except ε α} :
    Raises allowed (change <$> outcome) ↔ Raises allowed outcome := by
  cases outcome <;> simp [Raises, Functor.map, Except.map]

theorem mapM {check : α → Except ε β} {items : List α}
    (each : ∀ item ∈ items, Raises allowed (check item)) : Raises allowed (items.mapM check) := by
  induction items with
  | nil => exact pure []
  | cons item items induction =>
      obtain ⟨first, others⟩ := List.forall_mem_cons.mp each
      simp [List.mapM_cons, first, induction others]

theorem forM {check : α → Except ε Unit} {items : List α}
    (each : ∀ item ∈ items, Raises allowed (check item)) : Raises allowed (items.forM check) := by
  induction items with
  | nil => exact pure ()
  | cons item items induction =>
      obtain ⟨first, others⟩ := List.forall_mem_cons.mp each
      change Raises allowed (check item >>= fun _ => items.forM check)
      exact bind_iff.mpr ⟨first, fun _ _ => induction others⟩

/-- A fold only fails as its steps do, from any state that they keep to. -/
theorem foldlM_of_kept (kept : σ → Prop) {step : σ → α → Except ε σ} {items : List α}
    (each : ∀ item ∈ items, ∀ state, kept state → Raises allowed (step state item) ∧
      ∀ after, step state item = .ok after → kept after)
    {start : σ} (first : kept start) : Raises allowed (items.foldlM step start) := by
  induction items generalizing start with
  | nil => exact pure start
  | cons item items induction =>
      obtain ⟨here, others⟩ := List.forall_mem_cons.mp each
      obtain ⟨raises, keeps⟩ := here start first
      rw [List.foldlM_cons, bind_iff]
      exact ⟨raises, fun after stepped => induction others (keeps after stepped)⟩

theorem foldlM {step : σ → α → Except ε σ} {items : List α}
    (each : ∀ item ∈ items, ∀ state, Raises allowed (step state item)) (start : σ) :
    Raises allowed (items.foldlM step start) :=
  foldlM_of_kept (fun _ => True)
    (fun item member state _ => ⟨each item member state, fun _ _ => trivial⟩) trivial

end Raises

end Checked
end SqlEngine
