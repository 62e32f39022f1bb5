import SqlEngine.Execution.Definition
import SqlEngine.Proofs.Conformance

/-!
# Making, removing and emptying tables keeps conformance

The columns of a new table make sense and have distinct names, whatever tree they come from.
-/

namespace SqlEngine
namespace Column

/-- A further constraint never changes the type, and a default that it gives is held by the type. -/
theorem default_held_of_constrain {now : Timestamp} {before after : Column} {tree : Tree}
    (done : before.constrain now tree = .ok after)
    (held : ∀ value, before.default = some value → before.type.Holds value) :
    ∀ value, after.default = some value → after.type.Holds value := by
  unfold constrain at done
  split at done
  case h_5 =>
    obtain ⟨literal, -, done⟩ := Checked.bind_eq_ok.mp done
    obtain ⟨typed, read, done⟩ := Checked.bind_eq_ok.mp done
    obtain rfl := Checked.pure_eq_ok.mp done
    intro value same
    obtain rfl := Option.some.inj same
    exact Tree.holds_of_typedValue read
  case h_6 => contradiction
  all_goals
    obtain rfl := Except.ok.inj done
    exact held

theorem checkNumbering_eq_ok {column : Column} :
    column.checkNumbering = .ok () ↔
      (column.autoincrement = true → column.type = .integer ∨ column.type = .serial) := by
  unfold checkNumbering
  by_cases numbers : column.autoincrement = true <;>
    by_cases whole : column.type = .integer <;> by_cases serial : column.type = .serial <;>
      simp [numbers, whole, serial]

theorem sound_of_ofTree {now : Timestamp} {tree : Tree} {column : Column}
    (done : ofTree now tree = .ok column) : column.Sound := by
  simp only [ofTree] at done
  split at done
  · simp [Checked.bind_eq_ok] at done
  · split at done
    · simp only [Checked.bind_eq_ok, Checked.pure_eq_ok] at done
      obtain ⟨type, -, constrained, folded, _, checked, rfl⟩ := done
      refine ⟨checkNumbering_eq_ok.mp checked, ?_⟩
      refine Checked.foldlM_keeps (fun _ _ _ _ => default_held_of_constrain) folded ?_
      simp [ofType]
    · contradiction

/-- The columns of a list make sense, and their names are distinct and new. -/
theorem listOfTrees_eq_ok {now : Timestamp} {seen : List String} {trees : List Tree}
    {columns : List Column} (done : listOfTrees now seen trees = .ok columns) :
    columns.length = trees.length ∧ (∀ column ∈ columns, column.Sound ∧ column.name ∉ seen) ∧
      (columns.map (·.name)).Nodup := by
  induction trees generalizing seen columns with
  | nil =>
      obtain rfl := Except.ok.inj done
      simp
  | cons tree trees induction =>
      simp only [listOfTrees, Checked.bind_eq_ok] at done
      obtain ⟨column, defined, done⟩ := done
      split at done
      · simp [Checked.bind_eq_ok] at done
      · rename_i fresh
        simp only [Checked.bind_eq_ok, Checked.pure_eq_ok] at done
        obtain ⟨others, rest, rfl⟩ := done
        obtain ⟨count, sound, apart⟩ := induction rest
        refine ⟨by simp [count], ?_, ?_⟩
        · intro found member
          rcases List.mem_cons.mp member with rfl | member
          · exact ⟨sound_of_ofTree defined, by simpa using fresh⟩
          · exact ⟨(sound found member).1, fun again =>
              (sound found member).2 (List.mem_cons_of_mem _ again)⟩
        · rw [List.map_cons, List.nodup_cons]
          refine ⟨?_, apart⟩
          rintro again
          obtain ⟨found, member, same⟩ := List.mem_map.mp again
          exact (sound found member).2 (by simp [same])

end Column

namespace Database

variable {now : Timestamp} {database after : Database} {tree : Tree} {reply : Reply}

/-- Making a table does nothing if there is one of its name, and else adds an empty one. -/
theorem createTable_eq_ok (done : database.createTable now tree = .ok (reply, after)) :
    (reply = .changed 0 0 ∧ after = database) ∨
      ∃ named columns, tree.find? .identifier = some named ∧ named.children ≠ [] ∧
        database.find? named.lexeme = none ∧
        Column.listOfTrees now [] named.children = .ok columns ∧
        reply = .changed 0 1 ∧ after = database.put { name := named.lexeme, columns } := by
  simp only [createTable, Checked.bind_eq_ok] at done
  obtain ⟨named, required, done⟩ := done
  split at done
  · split at done
    · obtain ⟨rfl, rfl⟩ := Prod.mk.inj (Checked.pure_eq_ok.mp done)
      exact .inl ⟨rfl, rfl⟩
    · simp [Checked.bind_eq_ok] at done
  · split at done
    · simp [Checked.bind_eq_ok] at done
    · rename_i absent filled
      simp only [Checked.bind_eq_ok, Checked.pure_eq_ok] at done
      obtain ⟨columns, defined, made, created, done⟩ := done
      obtain ⟨rfl, rfl⟩ := Prod.mk.inj done
      obtain ⟨none, rfl⟩ := create_eq_ok.mp created
      exact .inr ⟨named, columns, Tree.require_eq_ok.mp required, by simpa using filled, none,
        defined, rfl, rfl⟩

/-- The table that `runCreate` makes, if it makes one. -/
theorem runCreate_eq_ok (done : database.runCreate now tree = .ok (reply, after)) :
    (reply = .changed 0 1 ∧ after = database) ∨ ∃ target, tree.onlyChild? = some target ∧
      database.createTable now target = .ok (reply, after) := by
  simp only [runCreate, Checked.bind_eq_ok] at done
  obtain ⟨target, only, done⟩ := done
  split at done
  · simp only [Checked.bind_eq_ok, Checked.pure_eq_ok, Prod.mk.injEq] at done
    obtain ⟨_, -, rfl, rfl⟩ := done
    exact .inl ⟨rfl, rfl⟩
  · exact .inr ⟨target, Tree.require_eq_ok.mp only, done⟩
  · contradiction

theorem runDrop_eq_ok (done : database.runDrop tree = .ok (reply, after)) :
    reply = .changed 0 1 ∧ (after = database ∨
      ∃ name relation, database.find? name = some relation ∧
        after = ⟨database.relations.erase name⟩) := by
  unfold runDrop at done
  split at done
  · obtain ⟨rfl, rfl⟩ := Prod.mk.inj (Except.ok.inj done)
    exact ⟨rfl, .inl rfl⟩
  · simp only [Checked.bind_eq_ok, Checked.pure_eq_ok, Prod.mk.injEq] at done
    obtain ⟨⟨relation, rest⟩, dropped, rfl, rfl⟩ := done
    obtain ⟨found, rfl⟩ := drop_eq_ok.mp dropped
    exact ⟨rfl, .inr ⟨_, relation, found, rfl⟩⟩
  · contradiction

theorem runTruncate_eq_ok (done : database.runTruncate tree = .ok (reply, after)) :
    ∃ name relation, database.find? name = some relation ∧
      reply = .changed 0 relation.rows.length ∧
      after = database.put { relation with rows := [] } := by
  unfold runTruncate at done
  split at done
  · simp only [Checked.bind_eq_ok, Checked.pure_eq_ok, Prod.mk.injEq] at done
    obtain ⟨name, -, relation, found, rfl, rfl⟩ := done
    exact ⟨name, relation, relation_eq_ok.mp found, rfl, rfl⟩
  · contradiction

/-! ## Conformance is kept -/

theorem Sound.runCreate (sound : database.Sound)
    (done : database.runCreate now tree = .ok (reply, after)) : after.Sound := by
  rcases runCreate_eq_ok done with ⟨-, rfl⟩ | ⟨target, -, created⟩
  · exact sound
  · rcases createTable_eq_ok created with ⟨-, rfl⟩ | ⟨named, columns, -, filled, -, defined, -, rfl⟩
    · exact sound
    · obtain ⟨count, columns_sound, apart⟩ := Column.listOfTrees_eq_ok defined
      refine sound.put ⟨?_, apart, fun column member => (columns_sound column member).1, ?_, ?_⟩
      · rintro rfl
        exact filled (List.length_eq_zero_iff.mp count.symm)
      · simp
      · intro column place _ _
        exact List.Pairwise.nil

theorem Sound.runDrop (sound : database.Sound)
    (done : database.runDrop tree = .ok (reply, after)) : after.Sound := by
  obtain ⟨-, rfl | ⟨name, relation, -, rfl⟩⟩ := runDrop_eq_ok done
  · exact sound
  · exact sound.erase name

theorem Sound.runTruncate (sound : database.Sound)
    (done : database.runTruncate tree = .ok (reply, after)) : after.Sound := by
  obtain ⟨name, relation, found, -, rfl⟩ := runTruncate_eq_ok done
  refine sound.put ((sound name relation found).2.withRows ?_ ?_ relation.sequence)
  · simp
  · intro column place _ _
    exact List.Pairwise.nil

end Database
end SqlEngine
