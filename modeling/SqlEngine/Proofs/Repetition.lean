import SqlEngine.Proofs.Chosen
import SqlEngine.Proofs.Mentions

/-!
# Updates done twice

An update puts fixed values into the rows that its condition chooses.  If the condition names none
of the columns that are assigned to, it chooses the changed rows again, which have the values
already, and the numbering is past all of them.  So a second update right behind the first changes
nothing more.
-/

namespace SqlEngine

/-- The columns that an update assigns to. -/
def Tree.assigned (tree : Tree) : List String :=
  match tree.find? .assignments with
  | some set => set.children.filterMap fun change => change.children.head?.map (·.lexeme)
  | none => []

theorem Predicate.mark_of_decided {predicate : Predicate} {rows : List Row}
    (decided : ∀ row ∈ rows, ∃ truth, predicate.holds row = .ok truth) :
    predicate.mark rows =
      .ok (rows.map fun row => (row, decide (predicate.holds row = .ok true))) := by
  refine Checked.mapM_eq_ok.mpr (List.forall₂_map_right_iff.mpr (List.forall₂_same.mpr ?_))
  intro row member
  obtain ⟨truth, holds⟩ := decided row member
  simp [holds, bind, Except.bind, pure, Except.pure]

/-- A number that the sequence is past is noted without effect. -/
theorem Numbering.note_of_past {numbering : Numbering} {value : Value}
    (past : ∀ id, value = .integer id → id < numbering.sequence) :
    numbering.note value = .ok numbering := by
  unfold note
  split
  · rename_i id
    have below := past id rfl
    have lower : id ≠ .maxValue := by
      rintro rfl
      exact absurd below (Int64.not_lt.mpr (Int64.le_maxValue _))
    have above : ¬ numbering.sequence ≤ id := Int64.not_le.mpr below
    simp only [advance, if_neg lower, if_neg above]
    rfl
  · rfl

namespace Relation

variable {now : Timestamp} {relation : Relation} {changes : List (Column × Nat × Value)}
  {row after again : Row}

/-- Of several changes in one place there is a last one. -/
theorem exists_last_change {place : Nat} (put : ∃ change ∈ changes, change.2.1 = place) :
    ∃ front column value back, changes = front ++ (column, place, value) :: back ∧
      ∀ change ∈ back, change.2.1 ≠ place := by
  induction changes with
  | nil => simp at put
  | cons change changes induction =>
      by_cases later : ∃ change ∈ changes, change.2.1 = place
      · obtain ⟨front, column, value, back, rfl, others⟩ := induction later
        exact ⟨change :: front, column, value, back, rfl, others⟩
      · obtain ⟨_, member, rfl⟩ := put
        rcases List.mem_cons.mp member with rfl | member
        · exact ⟨[], _, _, changes, rfl, fun change member same => later ⟨change, member, same⟩⟩
        · exact absurd ⟨_, member, rfl⟩ later

/-- A row that has been assigned to stays the same when it is assigned to again. -/
theorem Assigned.again_eq (first : Assigned changes row after)
    (second : Assigned changes after again) : again = after := by
  refine List.ext_getElem? fun place => ?_
  by_cases put : ∃ change ∈ changes, change.2.1 = place
  · obtain ⟨front, column, value, back, split, others⟩ := exists_last_change put
    rw [first.cells front column place value back split others,
      second.cells front column place value back split others]
  · exact second.kept place fun change member same => put ⟨change, member, same⟩

theorem Assigned.assign_eq (assigned : Assigned changes row after)
    (inside : ∀ change ∈ changes, change.2.1 < row.length) : assign changes after = .ok after := by
  have within : ∀ change ∈ changes, change.2.1 < after.length := by
    rw [assigned.length_eq]
    exact inside
  obtain ⟨again, done, second⟩ := exists_assigned within
  rw [done, assigned.again_eq second]

/-- Changes whose numbers the sequence is past are noted without effect. -/
theorem noteChanges_of_past {numbering : Numbering}
    (past : ∀ column place id, (column, place, .integer id) ∈ changes →
      column.autoincrement = true → id < numbering.sequence) :
    noteChanges numbering changes = .ok numbering := by
  unfold noteChanges
  induction changes with
  | nil => rfl
  | cons change changes induction =>
      obtain ⟨column, place, value⟩ := change
      have noted : (if column.autoincrement then numbering.note value else .ok numbering) =
          .ok numbering := by
        split
        · refine numbering.note_of_past fun id same => ?_
          subst same
          exact past column place id List.mem_cons_self ‹_›
        · rfl
      rw [List.foldlM_cons]
      refine Checked.bind_eq_ok.mpr ⟨numbering, noted, induction fun column place id member => ?_⟩
      exact past column place id (List.mem_cons_of_mem _ member)

/-- An assigned column is not where a condition looks that does not name it. -/
theorem place_notMem_of_assignments {tree set : Tree} (sets : tree.find? .assignments = some set)
    (done : set.children.mapM (relation.assignment now) = .ok changes) {names : List String}
    (apart : ∀ name ∈ tree.assigned, name ∉ names) {place : Nat}
    (named : Predicate.Named relation names place) : ∀ change ∈ changes, change.2.1 ≠ place := by
  rintro ⟨column, target, value⟩ member rfl
  obtain ⟨change, inside, assigned⟩ :=
    Checked.exists_of_mem_right (Checked.mapM_eq_ok.mp done) member
  obtain ⟨name, mentioned, other, found⟩ := named
  unfold assignment at assigned
  split at assigned
  · rename_i subject literal others split
    simp only [Checked.bind_eq_ok, Checked.pure_eq_ok, Prod.mk.injEq] at assigned
    obtain ⟨⟨_, _⟩, here, _, -, _, -, rfl, rfl, -⟩ := assigned
    have same := Option.some.inj ((getElem?_of_column here).symm.trans (getElem?_of_column found))
    have called : subject.lexeme = name := by
      rw [← (columnNames_of_column here).1, same, (columnNames_of_column found).1]
    refine apart name ?_ mentioned
    unfold Tree.assigned
    rw [sets]
    exact List.mem_filterMap.mpr ⟨change, inside, by simp [split, called]⟩
  · contradiction

/-- A row that has been updated is chosen as before, and stays as it is. -/
theorem Updated.stays {predicate : Predicate}
    (updated : Updated (fun row => decide (predicate.holds row = .ok true)) changes row after)
    (inside : ∀ change ∈ changes, change.2.1 < row.length)
    (unseen : ∀ change ∈ changes, change.2.1 ∉ predicate.places) :
    predicate.holds after = predicate.holds row ∧
      (if decide (predicate.holds after = .ok true) then assign changes after else .ok after) =
        .ok after := by
  unfold Updated at updated
  split at updated
  · have same : predicate.holds after = predicate.holds row :=
      Predicate.holds_congr fun place looked => updated.kept place fun change member here =>
        unseen change member (here ▸ looked)
    refine ⟨same, ?_⟩
    split
    · exact updated.assign_eq inside
    · rfl
  · rename_i other
    subst updated
    exact ⟨rfl, if_neg other⟩

theorem countP_eq_of_forall₂ {chosen : Row → Bool} {rows others : List Row}
    (alike : List.Forall₂ (fun row after => chosen after = chosen row) rows others) :
    others.countP chosen = rows.countP chosen := by
  induction alike with
  | nil => rfl
  | cons same _ induction => rw [List.countP_cons, List.countP_cons, same, induction]

/-- The rows of an update are marked as those before it, and stay as they are. -/
theorem exists_mark_of_updated {predicate : Predicate} {rows others : List Row}
    {marked : List (Row × Bool)} (marks : predicate.mark rows = .ok marked)
    (changed : (marked.mapM fun (row, chosen) =>
      if chosen then assign changes row else .ok row) = .ok others)
    (inside : ∀ row ∈ rows, ∀ change ∈ changes, change.2.1 < row.length)
    (unseen : ∀ change ∈ changes, change.2.1 ∉ predicate.places) :
    ∃ marked', predicate.mark others = .ok marked' ∧
      (marked'.mapM fun (row, chosen) =>
        if chosen then assign changes row else .ok row) = .ok others ∧
      marked'.countP (·.2) = marked.countP (·.2) := by
  let chosen (row : Row) : Bool := decide (predicate.holds row = .ok true)
  obtain ⟨decided, rfl⟩ := Predicate.eq_of_mark marks
  have updated : List.Forall₂ (Updated chosen changes) rows others := by
    obtain ⟨_, done, updated⟩ := exists_updated chosen inside
    exact Except.ok.inj (done.symm.trans changed) ▸ updated
  have stay := ((List.forall₂_and_left _ _).mpr ⟨inside, updated⟩).imp
    fun row after each => each.2.stays each.1 unseen
  refine ⟨others.map fun row => (row, chosen row), Predicate.mark_of_decided ?_, ?_, ?_⟩
  · intro after member
    obtain ⟨row, before, same, -⟩ := Checked.exists_of_mem_right stay member
    exact same ▸ decided row before
  · refine Checked.mapM_eq_ok.mpr (List.forall₂_map_left_iff.mpr (List.forall₂_same.mpr ?_))
    intro after member
    obtain ⟨row, -, -, kept⟩ := Checked.exists_of_mem_right stay member
    exact kept
  · have alike : List.Forall₂ (fun row after => chosen after = chosen row) rows others :=
      stay.imp fun row after each => by simp only [chosen, each.1]
    rw [List.countP_map, List.countP_map]
    exact countP_eq_of_forall₂ alike

end Relation

namespace Database

variable {now : Timestamp} {database after : Database} {tree : Tree} {reply : Reply}

theorem Sound.runUpdate_again (sound : database.Sound)
    (apart : ∀ clause, tree.find? .whereClause = some clause →
      ∀ name ∈ tree.assigned, name ∉ clause.names)
    (done : database.runUpdate now tree = .ok (reply, after)) :
    after.runUpdate now tree = .ok (reply, after) := by
  have first := done
  simp only [Database.runUpdate, Checked.bind_eq_ok] at done
  obtain ⟨name, target, set, sets, relation, found, predicate, compiled, changes, assigned, marked,
    marks, rows, changed, done⟩ := done
  split at done
  · obtain ⟨-, rfl⟩ := Prod.mk.inj (Checked.pure_eq_ok.mp done)
    exact first
  · rename_i some
    simp only [Checked.bind_eq_ok, Checked.pure_eq_ok, Prod.mk.injEq] at done
    obtain ⟨numbering, noted, _, replaced, rfl, rfl⟩ := done
    obtain ⟨unique, rfl⟩ := Relation.replaceRows_eq_ok.mp replaced
    obtain ⟨named, conforms⟩ := sound name relation (relation_eq_ok.mp found)
    have inside := conforms.place_lt (Relation.suits_of_assignments assigned)
    have unseen : ∀ change ∈ changes, change.2.1 ∉ predicate.places := by
      intro change member looked
      obtain ⟨clause, there, seen⟩ := Predicate.named_of_ofClause compiled looked
      exact Relation.place_notMem_of_assignments (Tree.require_eq_ok.mp sets) assigned
        (apart clause there) seen change member rfl
    obtain ⟨marked', marks', changed', counted⟩ :=
      Relation.exists_mark_of_updated marks changed inside unseen
    have past := (Relation.lt_of_noteChanges noted).2
    let grown : Relation := { relation with rows, sequence := numbering.sequence }
    have there : (database.put grown).relation name = .ok grown := by
      rw [relation_eq_ok, find?_put]
      exact if_pos named
    simp only [Database.runUpdate, Checked.bind_eq_ok]
    refine ⟨name, target, set, Tree.require_eq_ok.mpr (Tree.require_eq_ok.mp sets), grown, there,
      predicate, ?_, changes, assigned, marked', marks', rows, changed', ?_⟩
    · rw [← compiled]
      exact Predicate.ofClause_withRows rows numbering.sequence _
    · rw [if_neg (counted ▸ some), counted]
      refine Checked.bind_eq_ok.mpr ⟨⟨numbering.sequence, 0⟩, Relation.noteChanges_of_past past,
        Checked.bind_eq_ok.mpr ⟨grown, Relation.replaceRows_eq_ok.mpr ⟨unique, rfl⟩, ?_⟩⟩
      exact congrArg (fun final => Except.ok (Reply.changed 0 (marked.countP (·.2)), final))
        (put_put database rfl)

/-- Behind every history, an update without the current time whose condition names none of the
columns that it assigns to does nothing more if it is done again: the second time it gives the same
reply, and all tables stay as they are, with their numberings. -/
theorem update_again_after_calls (history : List (Timestamp × Call)) (now later : Timestamp)
    (updates : tree.token = .update) (timeless : tree.Timeless)
    (apart : ∀ clause ∈ tree.find? .whereClause, ∀ name ∈ tree.assigned, name ∉ clause.names)
    (done : (empty.calls history).execute now tree = .ok (reply, after)) :
    after.execute later tree = .ok (reply, after) := by
  have sound : (empty.calls history).Sound := sound_empty.calls history
  have updated (time : Timestamp) (database : Database) :
      database.execute time tree = database.runUpdate time tree := by
    simp only [Database.execute, updates]
  rw [execute_timeless timeless later now, updated]
  rw [updated] at done
  exact sound.runUpdate_again apart done

/-- An update that raises the numbering of its table raises it once. -/
theorem numbering_raised_once :
    let now := Date.atMidnight ⟨1970, 1, 1, by decide⟩
    let history := [(now, Call.script
      "CREATE TABLE t (a SERIAL, b INT, s TEXT); INSERT INTO t VALUES (1, 1, 'x'), (2, 2, 'y')")]
    let column (name : String) : Tree := ⟨.identifier, name, []⟩
    let set (name : String) (value : Tree) : Tree := ⟨.assign, "=", [column name, value]⟩
    let update : Tree := ⟨.update, "UPDATE", [column "t",
      ⟨.assignments, "SET", [set "a" ⟨.number, "9", []⟩, set "s" ⟨.stringLit, "z", []⟩,
        set "s" ⟨.stringLit, "w", []⟩]⟩,
      ⟨.whereClause, "WHERE", [⟨.equal, "=", [column "b", ⟨.number, "1", []⟩]⟩]⟩]⟩
    Script.parse "UPDATE t SET a = 9, s = 'z', s = 'w' WHERE b = 1" = .ok [update] ∧
    ∃ after, (empty.calls history).execute now update = .ok (.changed 0 1, after) ∧
      after.execute now update = .ok (.changed 0 1, after) := by
  intro now history column set update
  have replied : ((empty.calls history).execute now update).toOption.map (·.1) =
      some (.changed 0 1) := by
    decide +kernel
  obtain ⟨after, done⟩ : ∃ after,
      (empty.calls history).execute now update = .ok (.changed 0 1, after) := by
    cases outcome : (empty.calls history).execute now update with
    | ok result =>
        rw [outcome] at replied
        exact ⟨result.2, by rw [← Option.some.inj replied]⟩
    | error error =>
        rw [outcome] at replied
        contradiction
  have again : after.execute now update = .ok (.changed 0 1, after) :=
    update_again_after_calls history now now rfl (by decide +kernel) (by decide +kernel) done
  exact ⟨by decide +kernel, after, done, again⟩

end Database
end SqlEngine
