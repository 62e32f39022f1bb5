import Mathlib.Data.List.Induction
import SqlEngine.Proofs.Uniqueness

/-!
# Keys under calls on a table

The rows of a table are changed by three calls: one row is put behind the others, or several rows
are, or all rows are replaced.  Each call makes checks of its own and then changes the table in
place.  The last two look at the keys of all the rows that there would be; the first looks at the
number of cells alone.  So keys stay distinct as long as no single row is put in that has the key of
another.
-/

namespace SqlEngine

/-- A call that changes the rows of a table. -/
inductive Mutation where
  /-- Puts one row behind the others. -/
  | insert (row : Row)
  /-- Puts several rows behind the others, all or none. -/
  | insertAll (rows : List Row)
  /-- Puts other rows in place of all. -/
  | replaceRows (rows : List Row)

namespace Mutation

variable {relation after : Relation} {mutation : Mutation}

/-- What a call makes of a table. -/
def apply (relation : Relation) : Mutation → Except Error Relation
  | insert row => relation.insert row
  | insertAll rows => relation.insertAll rows
  | replaceRows rows => relation.replaceRows rows

/-- The value of a check, which does nothing to the table. -/
def check {α : Type} (outcome : Except Error α) : EStateM Error Relation α :=
  match outcome with
  | .ok value => pure value
  | .error error => throw error

/-- Carries out a call in place.  Where it stops with an error, the table stays as it has become. -/
def perform : Mutation → EStateM Error Relation Unit
  | insert row => do
    let relation ← get
    if row.length ≠ relation.columns.length then throw .columnCountMismatch
    modify fun relation => { relation with rows := relation.rows ++ [row] }
  | insertAll rows => do
    let relation ← get
    if rows.any (·.length != relation.columns.length) then throw .columnCountMismatch
    check (relation.checkUnique (relation.rows ++ rows))
    modify fun relation => { relation with rows := relation.rows ++ rows }
  | replaceRows rows => do
    let relation ← get
    check (relation.checkUnique rows)
    modify fun relation => { relation with rows }

theorem get_bind {α : Type} (next : Relation → EStateM Error Relation α) (relation : Relation) :
    (get >>= next) relation = next relation relation :=
  rfl

/-- A call in place comes to what it makes of the table, and stops only while nothing is done. -/
theorem perform_eq (mutation : Mutation) (relation : Relation) :
    mutation.perform relation =
      match mutation.apply relation with
      | .ok after => .ok () after
      | .error error => .error error relation := by
  cases mutation with
  | insert row =>
      simp only [perform, apply, Relation.insert, get_bind]
      by_cases narrow : row.length ≠ relation.columns.length
      · simp only [if_pos narrow]
        rfl
      · simp only [if_neg narrow]
        rfl
  | insertAll rows =>
      simp only [perform, apply, Relation.insertAll, get_bind]
      by_cases narrow : rows.any (·.length != relation.columns.length) = true
      · simp only [if_pos narrow]
        rfl
      · simp only [if_neg narrow]
        cases relation.checkUnique (relation.rows ++ rows) <;> rfl
  | replaceRows rows =>
      simp only [perform, apply, Relation.replaceRows, get_bind]
      cases relation.checkUnique rows <;> rfl

/-- The rows that a call brings. -/
def brought : Mutation → List Row
  | insert row => [row]
  | insertAll rows => rows
  | replaceRows rows => rows

/-- The rows that there are behind a call that succeeds. -/
def rowsAfter (rows : List Row) : Mutation → List Row
  | insert row => rows ++ [row]
  | insertAll others => rows ++ others
  | replaceRows others => others

/-- Whether a call looks at keys. -/
def checksKeys : Mutation → Bool
  | insert _ => false
  | insertAll _ => true
  | replaceRows _ => true

/-- Whether all rows that a call brings have a given number of cells. -/
def Wide (width : Nat) (mutation : Mutation) : Prop :=
  ∀ row ∈ mutation.brought, row.length = width

/-- The table that a call leaves, whether it succeeds or not. -/
def leaves (relation : Relation) (mutation : Mutation) : Relation :=
  match mutation.perform relation with
  | .ok _ after => after
  | .error _ after => after

theorem apply_eq_ok (wide : mutation.Wide relation.columns.length)
    (square : ∀ row ∈ relation.rows, row.length = relation.columns.length) :
    mutation.apply relation = .ok after ↔
      (mutation.checksKeys = true → relation.DistinctKeys (mutation.rowsAfter relation.rows)) ∧
      after = { relation with rows := mutation.rowsAfter relation.rows } := by
  cases mutation with
  | insert row =>
      have fits : row.length = relation.columns.length := wide row List.mem_cons_self
      simp [apply, Relation.insert, fits, checksKeys, rowsAfter, eq_comm]
  | insertAll rows =>
      have all : ∀ row ∈ relation.rows ++ rows, row.length = relation.columns.length :=
        List.forall_mem_append.mpr ⟨square, wide⟩
      simp only [apply, Relation.insertAll_eq_ok, Relation.checkUnique_eq_ok all, checksKeys,
        rowsAfter, forall_const]
      exact and_iff_right wide
  | replaceRows rows =>
      have all : ∀ row ∈ rows, row.length = relation.columns.length := wide
      simp only [apply, Relation.replaceRows_eq_ok, Relation.checkUnique_eq_ok all, checksKeys,
        rowsAfter, forall_const]

theorem leaves_eq (relation : Relation) (mutation : Mutation) :
    mutation.leaves relation =
      match mutation.apply relation with
      | .ok after => after
      | .error _ => relation := by
  rw [leaves, perform_eq]
  cases mutation.apply relation <;> rfl

/-- A call leaves the table as it was, or with the rows that it makes, which have distinct keys if
it looks at keys. -/
theorem leaves_cases (wide : mutation.Wide relation.columns.length)
    (square : ∀ row ∈ relation.rows, row.length = relation.columns.length) :
    mutation.leaves relation = relation ∨
      (mutation.checksKeys = true → relation.DistinctKeys (mutation.rowsAfter relation.rows)) ∧
        mutation.leaves relation = { relation with rows := mutation.rowsAfter relation.rows } := by
  rw [leaves_eq]
  cases applied : mutation.apply relation with
  | error error => exact .inl rfl
  | ok after => exact .inr ((apply_eq_ok wide square).mp applied)

theorem leaves_insert {row : Row} (fits : row.length = relation.columns.length) :
    (insert row).leaves relation = { relation with rows := relation.rows ++ [row] } := by
  simp [leaves_eq, apply, Relation.insert, fits]

theorem forall_mem_rowsAfter {width : Nat} {rows : List Row} (wide : mutation.Wide width)
    (all : ∀ row ∈ rows, row.length = width) :
    ∀ row ∈ mutation.rowsAfter rows, row.length = width := by
  cases mutation with
  | insert row => exact List.forall_mem_append.mpr ⟨all, wide⟩
  | insertAll others => exact List.forall_mem_append.mpr ⟨all, wide⟩
  | replaceRows others => exact wide

end Mutation

namespace Relation

variable {relation : Relation} {mutations : List Mutation}

/-- Whether two rows have the same value in a column that must have distinct values. -/
def SharesKey (relation : Relation) (first second : Row) : Prop :=
  ∃ column place, relation.columns[place]? = some column ∧ column.isUnique = true ∧
    Row.Clash place first second

theorem distinctKeys_of_columns {other : Relation} (same : other.columns = relation.columns)
    {rows : List Row} (distinct : other.DistinctKeys rows) : relation.DistinctKeys rows := by
  unfold DistinctKeys
  rwa [← same]

theorem distinctKeys_concat {rows : List Row} {row : Row} :
    relation.DistinctKeys (rows ++ [row]) ↔
      relation.DistinctKeys rows ∧ ∀ other ∈ rows, ¬ relation.SharesKey other row := by
  simp only [DistinctKeys, SharesKey, List.pairwise_append]
  constructor
  · intro distinct
    refine ⟨fun column place here unique => (distinct column place here unique).1, ?_⟩
    rintro other member ⟨column, place, here, unique, clash⟩
    exact (distinct column place here unique).2.2 other member row List.mem_cons_self clash
  · rintro ⟨distinct, fresh⟩ column place here unique
    refine ⟨distinct column place here unique, List.pairwise_singleton _ _, ?_⟩
    rintro other member _ (_ | ⟨_, ⟨⟩⟩) clash
    exact fresh other member ⟨column, place, here, unique, clash⟩

/-- The table behind several calls, of which some may have failed. -/
def afterCalls (relation : Relation) (mutations : List Mutation) : Relation :=
  mutations.foldl Mutation.leaves relation

theorem afterCalls_concat (relation : Relation) (mutations : List Mutation) (last : Mutation) :
    relation.afterCalls (mutations ++ [last]) = last.leaves (relation.afterCalls mutations) := by
  simp [afterCalls]

/-- Calls with rows of the right width keep the columns, and the width of all rows. -/
theorem square_afterCalls (square : ∀ row ∈ relation.rows, row.length = relation.columns.length)
    (wide : ∀ mutation ∈ mutations, mutation.Wide relation.columns.length) :
    (relation.afterCalls mutations).columns = relation.columns ∧
      ∀ row ∈ (relation.afterCalls mutations).rows, row.length = relation.columns.length := by
  induction mutations using List.reverseRecOn with
  | nil => exact ⟨rfl, square⟩
  | append_singleton front last induction =>
      obtain ⟨before, only⟩ := List.forall_mem_append.mp wide
      obtain ⟨columns, rows⟩ := induction before
      have width : last.Wide relation.columns.length := only last List.mem_cons_self
      rw [afterCalls_concat]
      rcases Mutation.leaves_cases (columns ▸ width) (columns.symm ▸ rows) with
        same | ⟨-, same⟩
      · rw [same]
        exact ⟨columns, rows⟩
      · rw [same]
        exact ⟨columns, Mutation.forall_mem_rowsAfter width rows⟩

/-- Whether no row that is put in singly has the key of a row that is there. -/
def FreshRows (start : Relation) (mutations : List Mutation) : Prop :=
  ∀ front row back, mutations = front ++ .insert row :: back →
    ∀ other ∈ (start.afterCalls front).rows, ¬ start.SharesKey other row

theorem FreshRows.front {start : Relation} {front back : List Mutation}
    (fresh : start.FreshRows (front ++ back)) : start.FreshRows front := by
  rintro earlier row others rfl
  exact fresh earlier row (others ++ back) (by simp)

theorem distinctKeys_afterCalls
    (square : ∀ row ∈ relation.rows, row.length = relation.columns.length)
    (distinct : relation.DistinctKeys relation.rows)
    (wide : ∀ mutation ∈ mutations, mutation.Wide relation.columns.length)
    (fresh : relation.FreshRows mutations) :
    relation.DistinctKeys (relation.afterCalls mutations).rows := by
  induction mutations using List.reverseRecOn with
  | nil => exact distinct
  | append_singleton front last induction =>
      obtain ⟨before, only⟩ := List.forall_mem_append.mp wide
      have kept := induction before fresh.front
      obtain ⟨columns, rows⟩ := square_afterCalls square before
      have width : last.Wide relation.columns.length := only last List.mem_cons_self
      rw [afterCalls_concat]
      rcases Mutation.leaves_cases (columns ▸ width) (columns.symm ▸ rows) with
        same | ⟨checked, same⟩
      · rw [same]
        exact kept
      · rw [same]
        cases last with
        | insert row => exact distinctKeys_concat.mpr ⟨kept, fresh front row [] rfl⟩
        | insertAll others => exact distinctKeys_of_columns columns (checked rfl)
        | replaceRows others => exact distinctKeys_of_columns columns (checked rfl)

/-- A single row that is put in has a key of its own if the keys are distinct behind it. -/
theorem freshRows_of_distinctKeys
    (square : ∀ row ∈ relation.rows, row.length = relation.columns.length)
    (wide : ∀ mutation ∈ mutations, mutation.Wide relation.columns.length)
    (distinct : ∀ front, front <+: mutations →
      relation.DistinctKeys (relation.afterCalls front).rows) :
    relation.FreshRows mutations := by
  rintro front row back rfl
  obtain ⟨before, behind⟩ := List.forall_mem_append.mp wide
  obtain ⟨columns, -⟩ := square_afterCalls square before
  have fits : row.length = relation.columns.length :=
    behind (.insert row) List.mem_cons_self row List.mem_cons_self
  have kept := distinct (front ++ [.insert row]) ⟨back, by simp⟩
  rw [afterCalls_concat, Mutation.leaves_insert (columns ▸ fits)] at kept
  exact (distinctKeys_concat.mp kept).2

/-- A call in place comes to what it makes of the table, and one that fails leaves the table as it
was.  A call that looks at keys succeeds if they are distinct in the rows that there would be, and a
single row is put in whatever its key is.  So keys are distinct behind each of several calls just
when every row that is put in singly has a key of its own. -/
theorem keys_distinct_but_for_single_rows (name : String) (columns : List Column)
    (mutations : List Mutation) (wide : ∀ mutation ∈ mutations, mutation.Wide columns.length) :
    let start : Relation := { name, columns }
    let table := start.afterCalls mutations
    (∀ next : Mutation, next.perform table =
      match next.apply table with
      | .ok after => .ok () after
      | .error error => .error error table) ∧
    (∀ next : Mutation, next.Wide columns.length → ∀ after, next.apply table = .ok after ↔
      (next.checksKeys = true → table.DistinctKeys (next.rowsAfter table.rows)) ∧
        after = { table with rows := next.rowsAfter table.rows }) ∧
    ((∀ front, front <+: mutations → start.DistinctKeys (start.afterCalls front).rows) ↔
      start.FreshRows mutations) := by
  intro start table
  have square : ∀ row ∈ start.rows, row.length = start.columns.length := by simp [start]
  obtain ⟨same, rows⟩ := square_afterCalls square wide
  refine ⟨fun next => next.perform_eq table, fun next width after => ?_,
    freshRows_of_distinctKeys square wide, fun fresh => ?_⟩
  · exact Mutation.apply_eq_ok (same.symm ▸ width) (same.symm ▸ rows)
  · rintro front ⟨back, rfl⟩
    have none : start.DistinctKeys start.rows := by simp [start, DistinctKeys]
    exact distinctKeys_afterCalls square none (List.forall_mem_append.mp wide).1 fresh.front

theorem sharesKey_one : (keyed .integer).SharesKey [.integer 1] [.integer 1] :=
  ⟨_, 0, rfl, rfl, .integer 1, .integer 1, rfl, rfl, by simp, by simp, rfl⟩

/-- Behind a single row, several rows of which one has its key are refused. -/
theorem key_refused_behind_single_row :
    let calls := [Mutation.insert [.integer 1]]
    let table := (keyed .integer).afterCalls calls
    (∀ mutation ∈ calls, mutation.Wide 1) ∧ table.DistinctKeys table.rows ∧
      ∀ after, (Mutation.insertAll [[.integer 1]]).apply table ≠ .ok after := by
  intro calls table
  have wide : ∀ mutation ∈ calls, mutation.Wide 1 := by
    simp [calls, Mutation.Wide, Mutation.brought]
  obtain ⟨-, accepted, distinct⟩ :=
    keys_distinct_but_for_single_rows "t" (keyed .integer).columns calls wide
  refine ⟨wide, distinct.mpr ?_ calls List.prefix_rfl, fun after applied => ?_⟩
  · intro front row back split
    have alone : front = [] := by
      cases front with
      | nil => rfl
      | cons first front => simp [calls] at split
    simp [alone, afterCalls]
  · have width : (Mutation.insertAll [[.integer 1]]).Wide 1 := by
      simp [Mutation.Wide, Mutation.brought]
    have keys := ((accepted _ width after).mp applied).1 rfl
    exact (distinctKeys_concat.mp keys).2 [.integer 1] List.mem_cons_self sharesKey_one

/-- A single row is put in although its key is there. -/
theorem single_row_repeats_key :
    let calls := [Mutation.insert [.integer 1], Mutation.insert [.integer 1]]
    let table := (keyed .integer).afterCalls calls
    (∀ mutation ∈ calls, mutation.Wide 1) ∧ table.rows = [[.integer 1], [.integer 1]] ∧
      ¬ table.DistinctKeys table.rows := by
  intro calls table
  refine ⟨by simp [calls, Mutation.Wide, Mutation.brought], rfl, fun distinct => ?_⟩
  exact (distinctKeys_concat.mp distinct).2 [.integer 1] List.mem_cons_self sharesKey_one

end Relation
end SqlEngine
