import SqlEngine.Proofs.Deeds
import SqlEngine.Proofs.Numbering

/-!
# Numbers are given once

The sequence of a table is above every number in its numbering columns, and no statement lets it
fall while there is the table.  So a number that an insertion hands out is higher than all numbers
that the table had before, whatever became of the rows that had them.
-/

namespace SqlEngine

/-! ## Numbers in a table -/

/-- Whether a column numbers its rows, or is of the type of those that do. -/
def Column.KeepsNumbers (column : Column) : Prop :=
  column.autoincrement = true ∨ column.type = .serial

namespace Column

variable {now : Timestamp} {before after : Column} {tree : Tree}

theorem serial_numbers_of_constrain (done : before.constrain now tree = .ok after)
    (numbers : before.type = .serial → before.autoincrement = true) :
    after.type = .serial → after.autoincrement = true := by
  unfold constrain at done
  split at done
  case h_5 =>
    obtain ⟨literal, -, done⟩ := Checked.bind_eq_ok.mp done
    obtain ⟨typed, -, done⟩ := Checked.bind_eq_ok.mp done
    obtain rfl := Checked.pure_eq_ok.mp done
    exact numbers
  case h_6 => contradiction
  case h_4 =>
    obtain rfl := Except.ok.inj done
    exact fun _ => rfl
  all_goals
    obtain rfl := Except.ok.inj done
    exact numbers

/-- A column of the type that numbers rows does number them. -/
theorem serial_numbers_of_ofTree {column : Column} (done : ofTree now tree = .ok column) :
    column.type = .serial → column.autoincrement = true := by
  simp only [ofTree] at done
  split at done
  · simp [Checked.bind_eq_ok] at done
  · split at done
    · simp only [Checked.bind_eq_ok, Checked.pure_eq_ok] at done
      obtain ⟨type, -, constrained, folded, _, -, rfl⟩ := done
      refine Checked.foldlM_keeps (fun _ _ _ _ => serial_numbers_of_constrain) folded ?_
      simp [ofType]
    · contradiction

theorem serial_numbers_of_listOfTrees {seen : List String} {trees : List Tree}
    {columns : List Column} (done : listOfTrees now seen trees = .ok columns) :
    ∀ column ∈ columns, column.type = .serial → column.autoincrement = true := by
  induction trees generalizing seen columns with
  | nil =>
      obtain rfl := Except.ok.inj done
      simp
  | cons tree trees induction =>
      simp only [listOfTrees, Checked.bind_eq_ok] at done
      obtain ⟨column, defined, done⟩ := done
      split at done
      · simp [Checked.bind_eq_ok] at done
      · simp only [Checked.bind_eq_ok, Checked.pure_eq_ok] at done
        obtain ⟨others, rest, rfl⟩ := done
        exact List.forall_mem_cons.mpr ⟨serial_numbers_of_ofTree defined, induction rest⟩

end Column

namespace Relation

/-- Whether a row of a table has a number in a column that numbers its rows. -/
def HasNumber (relation : Relation) (id : Int64) : Prop :=
  ∃ row ∈ relation.rows, ∃ (column : Column) (place : Nat),
    relation.columns[place]? = some column ∧ column.KeepsNumbers ∧
      row[place]? = some (.integer id)

/-- Whether the numbers of a table are in order. -/
structure Numbered (relation : Relation) : Prop where
  /-- A column of the type that numbers rows does number them. -/
  serial_numbers : ∀ column ∈ relation.columns, column.type = .serial →
    column.autoincrement = true
  /-- Numbers start from one. -/
  one_le_sequence : 1 ≤ relation.sequence
  /-- All numbers in the table are below its sequence. -/
  lt_sequence : ∀ id, relation.HasNumber id → id < relation.sequence

variable {now : Timestamp} {relation : Relation}

theorem Numbered.autoincrement (numbered : relation.Numbered) {column : Column} {place : Nat}
    (here : relation.columns[place]? = some column) (keeps : column.KeepsNumbers) :
    column.autoincrement = true :=
  keeps.elim id (numbered.serial_numbers column (List.mem_of_getElem? here))

/-- Other rows do no harm if the sequence does not fall, and their numbers were there before or are
below the sequence. -/
theorem Numbered.withRows (numbered : relation.Numbered) {rows : List Row} {sequence : Int64}
    (raised : relation.sequence ≤ sequence)
    (covered : ∀ row ∈ rows, ∀ (column : Column) (place : Nat) (id : Int64),
      relation.columns[place]? = some column → column.autoincrement = true →
      row[place]? = some (.integer id) → relation.HasNumber id ∨ id < sequence) :
    Numbered { relation with rows, sequence } where
  serial_numbers := numbered.serial_numbers
  one_le_sequence := Int64.le_trans numbered.one_le_sequence raised
  lt_sequence := by
    rintro id ⟨row, member, column, place, here, keeps, there⟩
    rcases covered row member column place id here (numbered.autoincrement here keeps) there with
      old | new
    · exact Int64.lt_of_lt_of_le (numbered.lt_sequence id old) raised
    · exact new

theorem Numbered.insert (numbered : relation.Numbered) {targets : List (Column × Nat)}
    {tuples : List Tree} {rows : List Row} {numbering : Numbering}
    (done : relation.newRows now targets ⟨relation.sequence, 0⟩ tuples = .ok (rows, numbering)) :
    Numbered { relation with rows := relation.rows ++ rows, sequence := numbering.sequence } := by
  obtain ⟨⟨ids, -, gives⟩, below⟩ := gives_of_newRows done
  refine numbered.withRows gives.sequence_le fun row member column place id here numbers there => ?_
  rcases List.mem_append.mp member with old | new
  · exact .inl ⟨row, old, column, place, here, .inl numbers, there⟩
  · exact .inr (below row new column place id here numbers there)

theorem Numbered.update (numbered : relation.Numbered) {trees : List Tree}
    {changes : List (Column × Nat × Value)}
    (assigned : trees.mapM (relation.assignment now) = .ok changes) {predicate : Predicate}
    {marked : List (Row × Bool)} (marks : predicate.mark relation.rows = .ok marked)
    {rows : List Row}
    (changed : (marked.mapM fun (row, chosen) =>
      if chosen then Relation.assign changes row else .ok row) = .ok rows)
    {numbering : Numbering} (noted : noteChanges ⟨relation.sequence, 0⟩ changes = .ok numbering) :
    Numbered { relation with rows, sequence := numbering.sequence } := by
  obtain ⟨raised, above⟩ := lt_of_noteChanges noted
  refine numbered.withRows raised fun row member column place id here numbers there => ?_
  obtain ⟨⟨before, chosen⟩, inside, made⟩ :=
    Checked.exists_of_mem_right (Checked.mapM_eq_ok.mp changed) member
  have old : before ∈ relation.rows := by
    rw [← Predicate.map_fst_mark marks]
    exact List.mem_map_of_mem (f := (·.1)) inside
  dsimp only at made
  split at made
  · rcases getElem?_of_assign made there with kept | ⟨other, change⟩
    · exact .inl ⟨before, old, column, place, here, .inl numbers, kept⟩
    · have suits := suits_of_assignments assigned
      obtain rfl : column = other :=
        Option.some.inj (here.symm.trans (suits other place _ change).1)
      exact .inr (above column place id change numbers)
  · obtain rfl := Except.ok.inj made
    exact .inl ⟨before, old, column, place, here, .inl numbers, there⟩

end Relation

/-! ## What a statement does to numbers -/

namespace Database

/-- What a statement can do to the tables, as far as their numbers are concerned. -/
inductive Effect (database : Database) : Database → Prop where
  /-- Nothing. -/
  | nothing : Effect database database
  /-- It makes an empty table under a new name. -/
  | made (table : Relation) (fresh : database.find? table.name = none)
      (numbered : table.Numbered) : Effect database (database.put table)
  /-- It takes a table away. -/
  | removed (name : String) : Effect database ⟨database.relations.erase name⟩
  /-- A table goes on with the same columns, and its sequence does not fall. -/
  | changed (table after : Relation) (found : database.find? after.name = some table)
      (raised : table.sequence ≤ after.sequence) (numbered : table.Numbered → after.Numbered) :
      Effect database (database.put after)

/-- Whether the numbers of all tables are in order. -/
def Numbered (database : Database) : Prop :=
  ∀ name relation, database.find? name = some relation → relation.Numbered

variable {now : Timestamp} {database after : Database} {tree : Tree} {reply : Reply}

theorem numbered_empty : empty.Numbered := by
  intro name relation found
  simp at found

/-- On a conforming database a statement does nothing else. -/
theorem Sound.effect (sound : database.Sound)
    (done : database.execute now tree = .ok (reply, after)) : database.Effect after := by
  have named {name : String} {relation : Relation} (found : database.find? name = some relation) :
      database.find? relation.name = some relation := by
    rw [(sound name relation found).1]
    exact found
  -- One case for each kind of statement; other trees are not executed.
  unfold Database.execute at done
  split at done
  · rcases runCreate_eq_ok done with ⟨-, rfl⟩ | ⟨target, -, created⟩
    · exact .nothing
    · rcases createTable_eq_ok created with
        ⟨-, rfl⟩ | ⟨named, columns, -, -, fresh, defined, -, rfl⟩
      · exact .nothing
      · refine .made _ fresh ⟨Column.serial_numbers_of_listOfTrees defined, Int64.le_refl 1, ?_⟩
        rintro id ⟨row, member, -⟩
        cases member
  · obtain ⟨-, rfl | ⟨name, relation, -, rfl⟩⟩ := runDrop_eq_ok done
    · exact .nothing
    · exact .removed name
  · obtain ⟨name, relation, found, -, rfl⟩ := runTruncate_eq_ok done
    refine .changed relation _ (named found) (Int64.le_refl _) fun numbered => ?_
    exact numbered.withRows (Int64.le_refl _) (by simp)
  · obtain ⟨into, values, relation, targets, rows, numbering, -, -, found, -, rowed, -, -, -,
      rfl⟩ := runInsert_eq_ok done
    obtain ⟨⟨ids, -, gives⟩, -⟩ := Relation.gives_of_newRows rowed
    exact .changed relation _ (named found) gives.sequence_le fun numbered => numbered.insert rowed
  · obtain ⟨name, relation, predicate, trees, changes, marked, rows, found, -, assigned, marks,
      changed, -, rfl | ⟨numbering, noted, -, rfl⟩⟩ := runUpdate_eq_ok done
    · exact .nothing
    · exact .changed relation _ (named found) (Relation.lt_of_noteChanges noted).1 fun numbered =>
        numbered.update assigned marks changed noted
  · obtain ⟨name, relation, predicate, marked, found, -, marks, -, rfl⟩ := runDelete_eq_ok done
    refine .changed relation _ (named found) (Int64.le_refl _) fun numbered => ?_
    refine numbered.withRows (Int64.le_refl _) ?_
    intro row member column place id here numbers there
    have old : row ∈ relation.rows := by
      rw [← Predicate.map_fst_mark marks]
      exact (List.filter_sublist.map _).subset member
    exact .inl ⟨row, old, column, place, here, .inl numbers, there⟩
  · simp only [Checked.bind_eq_ok, Checked.pure_eq_ok, Prod.mk.injEq] at done
    obtain ⟨_, -, -, rfl⟩ := done
    exact .nothing
  all_goals contradiction

theorem Effect.numbered (effect : database.Effect after) (numbered : database.Numbered) :
    after.Numbered := by
  intro name relation found
  cases effect with
  | nothing => exact numbered name relation found
  | made table _ made =>
      rw [find?_put] at found
      split at found
      · obtain rfl := Option.some.inj found
        exact made
      · exact numbered name relation found
  | removed erased =>
      rw [find?_erase] at found
      split at found
      · contradiction
      · exact numbered name relation found
  | changed table after there _ goes_on =>
      rw [find?_put] at found
      split at found
      · obtain rfl := Option.some.inj found
        exact goes_on (numbered _ table there)
      · exact numbered name relation found

/-- The sequence of a table does not fall while there is the table. -/
theorem Effect.sequence_le (effect : database.Effect after) {name : String}
    {table grown : Relation} (found : database.find? name = some table)
    (there : after.find? name = some grown) : table.sequence ≤ grown.sequence := by
  have unchanged (same : database.find? name = some grown) : table.sequence ≤ grown.sequence := by
    obtain rfl := Option.some.inj (found.symm.trans same)
    exact Int64.le_refl _
  cases effect with
  | nothing => exact unchanged there
  | made made fresh _ =>
      rw [find?_put] at there
      split at there
      · rename_i same
        rw [same, found] at fresh
        contradiction
      · exact unchanged there
  | removed erased =>
      rw [find?_erase] at there
      split at there
      · contradiction
      · exact unchanged there
  | changed before after known raised _ =>
      rw [find?_put] at there
      split at there
      · rename_i same
        obtain rfl := Option.some.inj there
        rw [same, found] at known
        obtain rfl := Option.some.inj known
        exact raised
      · exact unchanged there

end Database

/-! ## Deeds and the numbers that they hand out -/

/-- The table that an insertion adds rows to, with the columns that it names, and the rows. -/
def Tree.insertion? (tree : Tree) : Option (Tree × List Tree) := do
  let into ← (tree.find? .into).bind Tree.onlyChild?
  let values ← tree.find? .values
  if tree.token = .insert then some (into, values.children) else none

namespace Deed

/-- Whether a table is gone behind a deed. -/
def Drops (deed : Deed) (name : String) : Prop :=
  deed.before.contains name = true ∧ deed.after.contains name = false

/-- The numbers that a deed hands out to rows of the table of a name, in order, if it adds rows to
that table. -/
def handedOut? (deed : Deed) (name : String) : Option (List Value) := do
  let (into, tuples) ← deed.tree.insertion?
  let table ← deed.before.find? name
  let grown ← deed.after.find? name
  let targets ← (table.targets into.children).toOption
  if into.lexeme = name then
    some (table.handedOut targets tuples (grown.rows.drop table.rows.length))
  else none

/-- The numbers that a deed hands out to rows of the table of a name, in order. -/
def handedOut (deed : Deed) (name : String) : List Value :=
  (deed.handedOut? name).getD []

/-- Whether an insertion answers with the highest number that it hands out, and with zero if it
hands out none. -/
def TellsHighest (deed : Deed) : Prop :=
  ∃ (into : Tree) (tuples : List Tree) (ids : List Int64) (lastId : Int64) (affected : Int),
    deed.tree.insertion? = some (into, tuples) ∧ deed.handedOut into.lexeme = ids.map .integer ∧
      ids.Pairwise (· < ·) ∧ deed.reply = .changed lastId.toInt affected ∧
      (lastId = 0 ↔ ids = []) ∧ (ids ≠ [] → lastId ∈ ids ∧ ∀ id ∈ ids, id ≤ lastId)

variable {deed : Deed}

/-- An insertion hands out numbers of its table, which answers with the last of them. -/
theorem gives_of_insertion (sound : deed.before.Sound)
    (done : deed.before.execute deed.now deed.tree = .ok (deed.reply, deed.after))
    (token : deed.tree.token = .insert) :
    ∃ (into : Tree) (tuples : List Tree) (table grown : Relation) (ids : List Int64)
      (lastId : Int64) (affected : Int),
      deed.tree.insertion? = some (into, tuples) ∧
      deed.before.find? into.lexeme = some table ∧ deed.after.find? into.lexeme = some grown ∧
      deed.handedOut into.lexeme = ids.map .integer ∧
      Numbering.Gives ⟨table.sequence, 0⟩ ids ⟨grown.sequence, lastId⟩ ∧
      deed.reply = .changed lastId.toInt affected := by
  unfold Database.execute at done
  rw [token] at done
  obtain ⟨into, values, table, targets, rows, numbering, named, valued, found, targeted, rowed, -,
    -, replied, behind⟩ := Database.runInsert_eq_ok done
  obtain ⟨⟨ids, handed, gives⟩, -⟩ := Relation.gives_of_newRows rowed
  have there : deed.after.find? into.lexeme = some
      { table with rows := table.rows ++ rows, sequence := numbering.sequence } := by
    rw [behind, Database.find?_put, if_pos (sound _ _ found).1]
  have inserts : deed.tree.insertion? = some (into, values.children) := by
    simp [Tree.insertion?, token, named, valued]
  refine ⟨into, values.children, table, _, ids, numbering.lastId, rows.length, inserts, found,
    there, ?_, gives, replied⟩
  simp [handedOut, handedOut?, inserts, found, there, targeted, handed, Except.toOption]

/-- What a deed hands out to rows of a table lies between its sequences before and behind. -/
theorem within_of_mem_handedOut (sound : deed.before.Sound)
    (done : deed.before.execute deed.now deed.tree = .ok (deed.reply, deed.after)) {name : String}
    {id : Int64} (member : .integer id ∈ deed.handedOut name) :
    ∃ table grown, deed.before.find? name = some table ∧ deed.after.find? name = some grown ∧
      table.sequence ≤ id ∧ id < grown.sequence := by
  have token : deed.tree.token = .insert := by
    by_contra other
    simp [handedOut, handedOut?, Tree.insertion?, other] at member
  obtain ⟨into, tuples, table, grown, ids, lastId, affected, inserts, found, there, handed, gives,
    -⟩ := gives_of_insertion sound done token
  obtain rfl : into.lexeme = name := by
    by_contra other
    simp [handedOut, handedOut?, inserts, other] at member
  rw [handed] at member
  obtain ⟨given, inside, same⟩ := List.mem_map.mp member
  obtain rfl := Value.integer.inj same
  exact ⟨table, grown, found, there, gives.within given inside⟩

theorem tellsHighest (sound : deed.before.Sound) (numbered : deed.before.Numbered)
    (done : deed.before.execute deed.now deed.tree = .ok (deed.reply, deed.after))
    (token : deed.tree.token = .insert) : deed.TellsHighest := by
  obtain ⟨into, tuples, table, grown, ids, lastId, affected, inserts, found, -, handed, gives,
    replied⟩ := gives_of_insertion sound done token
  have one_le : 1 ≤ table.sequence := (numbered into.lexeme table found).one_le_sequence
  refine ⟨into, tuples, ids, lastId, affected, inserts, handed, gives.increasing, replied, ?_⟩
  have last : lastId = ids.getLast?.getD 0 := gives.lastId_eq
  rcases List.eq_nil_or_concat ids with rfl | ⟨earlier, highest, rfl⟩
  · exact ⟨by simpa using last, by simp⟩
  · obtain rfl : lastId = highest := by simpa using last
    have increasing := gives.increasing
    rw [List.concat_eq_append] at increasing ⊢
    obtain ⟨-, -, below⟩ := List.pairwise_append.mp increasing
    have one_le_last := Int64.le_trans one_le (gives.within lastId (by simp)).1
    have nonzero : lastId ≠ 0 := by
      rintro rfl
      exact absurd one_le_last (by decide)
    refine ⟨by simp [nonzero], fun _ => ⟨by simp, fun id member => ?_⟩⟩
    rcases List.mem_append.mp member with old | new
    · exact Int64.le_of_lt (below id old lastId (by simp))
    · obtain rfl := List.mem_singleton.mp new
      exact Int64.le_refl _

end Deed

/-- Whether the table of a name has a number in a column that numbers its rows. -/
def Database.HasNumber (database : Database) (name : String) (id : Int64) : Prop :=
  ∃ relation, database.find? name = some relation ∧ relation.HasNumber id

namespace Leads

variable {start final : Database} {deeds : List Deed} {name : String}

theorem numbered (leads : Leads start deeds final) (sound : start.Sound)
    (numbered : start.Numbered) : final.Numbered := by
  induction leads with
  | nil => exact numbered
  | cons done _ induction =>
      exact induction (sound.execute done) ((sound.effect done).numbered numbered)

/-- A table that no deed drops is there all along, and its sequence does not fall. -/
theorem exists_grown (leads : Leads start deeds final) (sound : start.Sound)
    (kept : ∀ deed ∈ deeds, ¬ deed.Drops name) {table : Relation}
    (found : start.find? name = some table) :
    ∃ grown, final.find? name = some grown ∧ table.sequence ≤ grown.sequence := by
  induction leads generalizing table with
  | nil => exact ⟨table, found, Int64.le_refl _⟩
  | @cons deed _ _ done _ induction =>
      obtain ⟨here, others⟩ := List.forall_mem_cons.mp kept
      cases there : deed.after.find? name with
      | none => exact absurd (by simp [Deed.Drops, Database.contains_eq_isSome, found, there]) here
      | some next =>
          obtain ⟨grown, last, raised⟩ := induction (sound.execute done) others there
          exact ⟨grown, last, Int64.le_trans ((sound.effect done).sequence_le found there) raised⟩

/-- What is below the sequence of a table is below all numbers that the table hands out later. -/
theorem lt_of_mem_handedOut {later : Deed} (leads : Leads start deeds later.before)
    (sound : start.Sound)
    (done : later.before.execute later.now later.tree = .ok (later.reply, later.after))
    (kept : ∀ deed ∈ deeds, ¬ deed.Drops name) {table : Relation}
    (found : start.find? name = some table) {old new : Int64} (below : old < table.sequence)
    (member : .integer new ∈ later.handedOut name) : old < new := by
  obtain ⟨grown, there, raised⟩ := leads.exists_grown sound kept found
  obtain ⟨before, _, same, -, above, -⟩ :=
    Deed.within_of_mem_handedOut (leads.sound sound) done member
  obtain rfl := Option.some.inj (there.symm.trans same)
  exact Int64.lt_of_lt_of_le (Int64.lt_of_lt_of_le below raised) above

end Leads

/-- Behind every history the sequence of each table is at least one and above all numbers in its
numbering columns.  In the course of the history, the numbers that an insertion hands out are higher
than those handed out and those stored at any earlier time since the table was last made, and the
insertion answers with the highest of them, or zero if there are none.  No number overflows. -/
theorem numbers_never_reused_after_calls (history : List (Timestamp × Call)) :
    (∀ name relation, (Database.empty.calls history).find? name = some relation →
      1 ≤ relation.sequence ∧ ∀ id, relation.HasNumber id → id < relation.sequence) ∧
    Leads .empty (Database.empty.deeds history) (Database.empty.calls history) ∧
    (∀ (front middle : List Deed) (later : Deed) (back : List Deed) (name : String),
      Database.empty.deeds history = front ++ middle ++ later :: back →
      (∀ deed ∈ middle, ¬ deed.Drops name) →
      ∀ new, .integer new ∈ later.handedOut name →
        (∀ deed ∈ middle, ∀ old, .integer old ∈ deed.handedOut name → old < new) ∧
        ∀ deed ∈ middle ++ [later], ∀ old, deed.before.HasNumber name old → old < new) ∧
    (∀ deed ∈ Database.empty.deeds history, deed.tree.token = .insert → deed.TellsHighest) ∧
    ∀ current id, (∃ next, advance current id = .ok next ∧
        next.toInt = max current.toInt (id.toInt + 1)) ∨
      id = .maxValue ∧ advance current id = .error (.constraint .exhausted) := by
  have start_sound := Database.sound_empty
  have start_numbered := Database.numbered_empty
  have course := Database.leads_deeds .empty history
  refine ⟨fun name relation found => ?_, course, ?_, ?_, fun current id => ?_⟩
  · have numbered := course.numbered start_sound start_numbered name relation found
    exact ⟨numbered.one_le_sequence, numbered.lt_sequence⟩
  · intro front middle later back name split kept new member
    rw [split] at course
    obtain ⟨earlier, later_done, -⟩ := course.cut
    -- A deed of the middle leads to the later one through some of the middle, which drop nothing.
    have between {deed : Deed} (inside : deed ∈ middle) :
        ∃ others, deed.before.Sound ∧ deed.before.Numbered ∧
          deed.before.execute deed.now deed.tree = .ok (deed.reply, deed.after) ∧
          Leads deed.after others later.before ∧ (∀ other ∈ others, ¬ other.Drops name) ∧
          ¬ deed.Drops name := by
      obtain ⟨left, right, rfl⟩ := List.append_of_mem inside
      rw [← List.append_assoc] at earlier
      obtain ⟨before, done, behind⟩ := earlier.cut
      exact ⟨right, before.sound start_sound, before.numbered start_sound start_numbered, done,
        behind, fun other listed => kept other (by simp [listed]), kept deed inside⟩
    constructor
    · intro deed inside old handed
      obtain ⟨others, sound, -, done, behind, others_keep, -⟩ := between inside
      obtain ⟨_, grown, -, there, -, below⟩ := Deed.within_of_mem_handedOut sound done handed
      exact behind.lt_of_mem_handedOut (sound.execute done) later_done others_keep there below
        member
    · rintro deed inside old ⟨table, found, holds⟩
      rcases List.mem_append.mp inside with inside | last
      · obtain ⟨others, sound, numbered, done, behind, others_keep, keeps⟩ := between inside
        refine (Leads.cons done behind).lt_of_mem_handedOut sound later_done
          (List.forall_mem_cons.mpr ⟨keeps, others_keep⟩) found ?_ member
        exact (numbered name table found).lt_sequence old holds
      · obtain rfl := List.mem_singleton.mp last
        have numbered := earlier.numbered start_sound start_numbered
        exact (Leads.nil deed.before).lt_of_mem_handedOut (earlier.sound start_sound) later_done
          (by simp) found ((numbered name table found).lt_sequence old holds) member
  · intro deed member token
    obtain ⟨front, back, split⟩ := List.append_of_mem member
    rw [split] at course
    obtain ⟨before, done, -⟩ := course.cut
    exact Deed.tellsHighest (before.sound start_sound)
      (before.numbered start_sound start_numbered) done token
  · cases advanced : advance current id with
    | ok next => exact .inl ⟨next, rfl, (advance_eq_ok.mp advanced).2⟩
    | error error =>
        obtain ⟨highest, rfl⟩ := advance_eq_error.mp advanced
        exact .inr ⟨highest, rfl⟩

end SqlEngine
