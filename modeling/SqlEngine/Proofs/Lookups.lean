import SqlEngine.Error
import SqlEngine.Proofs.Checked

/-!
# Guarded lookups

A guarded computation looks at places of lists one by one and halts at a place that a list does not
have.  It is tied to a computation that has no such places in it by an equation: it succeeds and fails
along with that, so that it never halts at a place.
-/

namespace SqlEngine

/-- Why a statement halts. -/
inductive Halt where
  /-- It looks at a place of a list that has only so many items. -/
  | outside (place length : Nat)
  /-- It fails with an error. -/
  | error (error : Error)
  deriving DecidableEq

/-- A computation that halts at a place that a list does not have. -/
abbrev Guarded (α : Type) :=
  Except Halt α

namespace Guarded

variable {α β γ δ : Type}

/-- The item at a place of a list. -/
def lookup (items : List α) (place : Nat) : Guarded α :=
  match items[place]? with
  | some item => .ok item
  | none => .error (.outside place items.length)

/-- The items of a list from a place on, which may be the one behind the last. -/
def slice (items : List α) (place : Nat) : Guarded (List α) :=
  if place ≤ items.length then .ok (items.drop place)
  else .error (.outside place items.length)

/-- The list with another item at a place. -/
def store (items : List α) (place : Nat) (item : α) : Guarded (List α) :=
  if place < items.length then .ok (items.set place item)
  else .error (.outside place items.length)

/-- A computation that looks at no places, as a guarded one. -/
def lift (outcome : Except Error α) : Guarded α :=
  outcome.mapError .error

@[simp]
theorem lift_ok (value : α) : lift (.ok value) = .ok value :=
  rfl

@[simp]
theorem lift_error (error : Error) : lift (.error error : Except Error α) = .error (.error error) :=
  rfl

theorem lift_ne_outside (outcome : Except Error α) (place length : Nat) :
    lift outcome ≠ .error (.outside place length) := by
  cases outcome <;> simp

theorem lookup_eq_ok {items : List α} {place : Nat} {item : α} (there : items[place]? = some item) :
    lookup items place = .ok item := by
  rw [lookup, there]

theorem slice_eq_ok {items : List α} {place : Nat} (inside : place ≤ items.length) :
    slice items place = .ok (items.drop place) :=
  if_pos inside

theorem store_eq_ok {items : List α} {place : Nat} (inside : place < items.length) (item : α) :
    store items place item = .ok (items.set place item) :=
  if_pos inside

/-- Steps that go along with each other make up computations that do. -/
theorem bind_eq_lift {looked : Guarded β} {outcome : Except Error α} {change : α → β}
    {next : β → Guarded γ} {next' : α → Except Error γ} (first : looked = lift (change <$> outcome))
    (others : ∀ value, outcome = .ok value → next (change value) = lift (next' value)) :
    looked >>= next = lift (outcome >>= next') := by
  subst first
  cases outcome with
  | error error => rfl
  | ok value => exact others value rfl

theorem bind_lift_eq_lift {outcome : Except Error α} {next : α → Guarded γ}
    {next' : α → Except Error γ}
    (others : ∀ value, outcome = .ok value → next value = lift (next' value)) :
    lift outcome >>= next = lift (outcome >>= next') := by
  cases outcome with
  | error error => rfl
  | ok value => exact others value rfl

/-- A choice goes along with a choice between computations that go along with its sides. -/
theorem ite_eq_lift {asked : Prop} [Decidable asked] {looked looked' : Guarded α}
    {outcome outcome' : Except Error α} (yes : asked → looked = lift outcome)
    (no : ¬ asked → looked' = lift outcome') :
    (if asked then looked else looked') = lift (if asked then outcome else outcome') := by
  by_cases holds : asked
  · rw [if_pos holds, if_pos holds, yes holds]
  · rw [if_neg holds, if_neg holds, no holds]

/-- Steps over the items of a list go along with each other item by item. -/
theorem mapM_eq_lift {items : List α} {look : α → Guarded γ} {check : α → Except Error β}
    {change : β → γ} (each : ∀ item ∈ items, look item = lift (change <$> check item)) :
    items.mapM look = lift (List.map change <$> items.mapM check) := by
  induction items with
  | nil => rfl
  | cons item items induction =>
      obtain ⟨here, there⟩ := List.forall_mem_cons.mp each
      rw [List.mapM_cons, List.mapM_cons, map_bind]
      refine bind_eq_lift here fun value _ => ?_
      rw [induction there, map_bind]
      exact bind_eq_lift rfl fun values _ => rfl

theorem mapM_lift {items : List α} {look : α → Guarded β} {check : α → Except Error β}
    (each : ∀ item ∈ items, look item = lift (check item)) :
    items.mapM look = lift (items.mapM check) := by
  have all : items.mapM look = lift (List.map id <$> items.mapM check) :=
    mapM_eq_lift fun item member => by rw [each item member, id_map]
  rw [all, List.map_id_fun, id_map]

theorem forM_eq_lift {items : List α} {look : α → Guarded Unit} {check : α → Except Error Unit}
    (each : ∀ item ∈ items, look item = lift (check item)) :
    items.forM look = lift (items.forM check) := by
  induction items with
  | nil => rfl
  | cons item items induction =>
      obtain ⟨here, there⟩ := List.forall_mem_cons.mp each
      change (look item >>= fun _ => items.forM look) =
        lift (check item >>= fun _ => items.forM check)
      rw [here]
      exact bind_lift_eq_lift fun _ _ => induction there

end Guarded
end SqlEngine
