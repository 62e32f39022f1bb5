import Mathlib.Data.List.Perm.Basic

/-!
# Stable orderings

A list is a stable ordering of another if it has the same entries, in order, and entries that tie
stand as they stood.  Where the order is total and transitive among the entries there is just one
stable ordering, so that it does not matter how it is found.
-/

namespace SqlEngine

variable {α : Type} {before : α → α → Prop} {entries first second : List α}

/-- Whether each of two entries may precede the other. -/
def Tie (before : α → α → Prop) (left right : α) : Prop :=
  before left right ∧ before right left

/-- Whether a list holds the entries of another in order, and those that tie as they stood. -/
structure StablyOrdered (before : α → α → Prop) (entries sorted : List α) : Prop where
  /-- The entries are the same. -/
  perm : sorted.Perm entries
  /-- Each may precede those behind it. -/
  ordered : sorted.Pairwise before
  /-- Entries that tie stand as they stood. -/
  ties : ∀ part : List α, part.Sublist entries → part.Pairwise (Tie before) → part.Sublist sorted

/-- Whether an order is total and transitive among entries. -/
structure TotallyOrdered (before : α → α → Prop) (entries : List α) : Prop where
  /-- One of two entries may precede the other. -/
  total : ∀ left ∈ entries, ∀ right ∈ entries, before left right ∨ before right left
  /-- What may precede an entry may precede what that entry may precede. -/
  trans : ∀ left ∈ entries, ∀ middle ∈ entries, ∀ right ∈ entries,
    before left middle → before middle right → before left right

theorem TotallyOrdered.of_subset (order : TotallyOrdered before entries)
    (within : ∀ entry ∈ first, entry ∈ entries) : TotallyOrdered before first where
  total left here right there := order.total left (within left here) right (within right there)
  trans left here middle between right there :=
    order.trans left (within left here) middle (within middle between) right (within right there)

theorem TotallyOrdered.refl (order : TotallyOrdered before entries) {entry : α}
    (member : entry ∈ entries) : before entry entry :=
  (order.total entry member entry member).elim id id

open Classical in
/-- In a stable ordering the entries that tie with one of them stand as they stood. -/
theorem StablyOrdered.filter_tie_eq (stable : StablyOrdered before entries first)
    (order : TotallyOrdered before entries) {entry : α} (member : entry ∈ entries) :
    first.filter (Tie before entry) = entries.filter (Tie before entry) := by
  have tied : (entries.filter (Tie before entry)).Pairwise (Tie before) := by
    refine List.pairwise_of_forall_mem_list fun left here right there => ?_
    obtain ⟨here, left_tie⟩ := List.mem_filter.mp here
    obtain ⟨there, right_tie⟩ := List.mem_filter.mp there
    obtain ⟨to_left, from_left⟩ := of_decide_eq_true left_tie
    obtain ⟨to_right, from_right⟩ := of_decide_eq_true right_tie
    exact ⟨order.trans left here entry member right there from_left to_right,
      order.trans right there entry member left here from_right to_left⟩
  have inside := (stable.ties _ List.filter_sublist tied).filter (Tie before entry)
  rw [List.filter_filter] at inside
  simp only [Bool.and_self] at inside
  exact (inside.eq_of_length (stable.perm.filter _).length_eq.symm).symm

open Classical in
/-- Lists in order are the same if each entry ties with the same entries in both. -/
theorem eq_of_filter_tie_eq (reflexive : ∀ entry ∈ first, before entry entry)
    (perm : first.Perm second) (ordered : first.Pairwise before)
    (ordered' : second.Pairwise before)
    (same : ∀ entry ∈ first, first.filter (Tie before entry) = second.filter (Tie before entry)) :
    first = second := by
  induction first generalizing second with
  | nil => exact (List.nil_perm.mp perm).symm
  | cons head tail induction =>
      cases second with
      | nil => exact absurd (List.perm_nil.mp perm) (List.cons_ne_nil _ _)
      | cons head' tail' =>
          obtain ⟨behind, rest⟩ := List.pairwise_cons.mp ordered
          obtain ⟨behind', rest'⟩ := List.pairwise_cons.mp ordered'
          have refl := reflexive head List.mem_cons_self
          have to_head' : before head head' := by
            rcases List.mem_cons.mp (perm.mem_iff.mpr (List.mem_cons_self (a := head'))) with
              rfl | member
            · exact refl
            · exact behind head' member
          have to_head : before head' head := by
            rcases List.mem_cons.mp (perm.mem_iff.mp (List.mem_cons_self (a := head))) with
              rfl | member
            · exact refl
            · exact behind' head member
          have heads : head = head' := by
            have front := same head List.mem_cons_self
            rw [List.filter_cons_of_pos (by simp [Tie, refl]),
              List.filter_cons_of_pos (by simp [Tie, to_head, to_head'])] at front
            exact (List.cons.inj front).1
          subst heads
          refine congrArg (head :: ·) (induction
            (fun entry member => reflexive entry (List.mem_cons_of_mem _ member))
            ((List.perm_cons head).mp perm) rest rest' fun entry member => ?_)
          have both := same entry (List.mem_cons_of_mem _ member)
          simp only [List.filter_cons] at both
          split at both
          · exact (List.cons.inj both).2
          · exact both

/-- Where the order is total and transitive, a list has no two stable orderings. -/
theorem StablyOrdered.unique (order : TotallyOrdered before entries)
    (stable : StablyOrdered before entries first) (stable' : StablyOrdered before entries second) :
    first = second := by
  refine eq_of_filter_tie_eq (fun entry member => order.refl (stable.perm.mem_iff.mp member))
    (stable.perm.trans stable'.perm.symm) stable.ordered stable'.ordered fun entry member => ?_
  have inside := stable.perm.mem_iff.mp member
  rw [stable.filter_tie_eq order inside, stable'.filter_tie_eq order inside]

/-- Where the order is total and transitive, merging finds the stable ordering. -/
theorem stablyOrdered_mergeSort {le : α → α → Bool} (order : TotallyOrdered before entries)
    (same : ∀ left ∈ entries, ∀ right ∈ entries, (le left right = true ↔ before left right)) :
    StablyOrdered before entries (entries.mergeSort le) := by
  -- Among the entries alone, the order is total and transitive without further ado.
  let among (left right : { entry // entry ∈ entries }) : Bool := le left right
  have among_iff (left right) : among left right = true ↔ before left right :=
    same left left.2 right right.2
  have trans : ∀ left middle right, among left middle = true → among middle right = true →
      among left right = true := by
    intro left middle right
    simp only [among_iff]
    exact order.trans left left.2 middle middle.2 right right.2
  have total : ∀ left right, (among left right || among right left) = true := by
    intro left right
    rw [Bool.or_eq_true, among_iff, among_iff]
    exact order.total left left.2 right right.2
  have sorted : (entries.attach.mergeSort among).map Subtype.val = entries.mergeSort le := by
    rw [List.map_mergeSort (s := le) fun _ _ _ _ => rfl, List.attach_map_subtype_val]
  refine ⟨List.mergeSort_perm entries le, ?_, fun part inside tied => ?_⟩
  · rw [← sorted, List.pairwise_map]
    exact (List.pairwise_mergeSort trans total _).imp fun ordered => (among_iff _ _).mp ordered
  · rw [← List.attach_map_subtype_val entries] at inside
    obtain ⟨part, within, rfl⟩ := List.sublist_map_iff.mp inside
    rw [← sorted]
    refine (List.sublist_mergeSort trans total ?_ within).map _
    exact (List.pairwise_map.mp tied).imp fun tie => (among_iff _ _).mpr tie.1

end SqlEngine
