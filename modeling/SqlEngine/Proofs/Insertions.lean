import SqlEngine.Proofs.Batches
import SqlEngine.Proofs.Identifiers
import SqlEngine.Proofs.Independence

/-!
# Insertions row by row

An insertion of several rows does what a batch of insertions of one row each does.  The rows that it
works out come from the columns and the sequence of the table, and neither from the rows there nor
from the last number given; and rows without a value twice have none twice at any earlier point.
-/

namespace SqlEngine

/-! ## Rows do not depend on the last number given -/

namespace Numbering

variable {numbering other after : Numbering}

theorem note_of_sequence_eq (same : numbering.sequence = other.sequence) {value : Value}
    (done : numbering.note value = .ok after) :
    ∃ behind, other.note value = .ok behind ∧ after.sequence = behind.sequence := by
  unfold note at done ⊢
  split at done
  · simp only [Checked.bind_eq_ok, Checked.pure_eq_ok] at done ⊢
    obtain ⟨next, advanced, rfl⟩ := done
    rw [same] at advanced
    exact ⟨{ other with sequence := next }, ⟨next, advanced, rfl⟩, rfl⟩
  · obtain rfl := Checked.pure_eq_ok.mp done
    exact ⟨other, rfl, same⟩

theorem cell_of_sequence_eq (same : numbering.sequence = other.sequence) {column : Column}
    {given : Option Value} {value : Value}
    (done : numbering.cell column given = .ok (value, after)) :
    ∃ behind, other.cell column given = .ok (value, behind) ∧ after.sequence = behind.sequence := by
  unfold cell at done ⊢
  rw [← same]
  split at done
  · rename_i numbers
    rw [if_pos numbers]
    split at done
    · split at done
      · rename_i null
        simp only [if_pos null]
        -- The number that is handed out becomes the last one given, whatever that was before.
        exact ⟨after, done, rfl⟩
      · rename_i filled
        simp only [Checked.bind_eq_ok, Checked.pure_eq_ok, Prod.mk.injEq, if_neg filled] at done ⊢
        obtain ⟨_, noted, rfl, rfl⟩ := done
        obtain ⟨behind, also, ends⟩ := note_of_sequence_eq same noted
        exact ⟨behind, ⟨behind, also, rfl, rfl⟩, ends⟩
    · exact ⟨after, done, rfl⟩
  · rename_i plain
    obtain ⟨rfl, rfl⟩ := Prod.mk.inj (Checked.pure_eq_ok.mp done)
    rw [if_neg plain]
    exact ⟨other, rfl, same⟩

theorem row_of_sequence_eq (same : numbering.sequence = other.sequence)
    {entries : List (Column × Option Value)} {cells : Row}
    (done : numbering.row entries = .ok (cells, after)) :
    ∃ behind, other.row entries = .ok (cells, behind) ∧ after.sequence = behind.sequence := by
  induction entries generalizing numbering other cells with
  | nil =>
      obtain ⟨rfl, rfl⟩ := Prod.mk.inj (Except.ok.inj done)
      exact ⟨other, rfl, same⟩
  | cons entry entries induction =>
      simp only [row, Checked.bind_eq_ok, Checked.pure_eq_ok, Prod.mk.injEq] at done ⊢
      obtain ⟨⟨value, middle⟩, first, checked, passed, ⟨others, last⟩, rest, rfl, rfl⟩ := done
      obtain ⟨between, also, meets⟩ := cell_of_sequence_eq same first
      obtain ⟨behind, then_also, ends⟩ := induction meets rest
      exact ⟨behind, ⟨(value, between), also, checked, passed, (others, behind), then_also, rfl,
        rfl⟩, ends⟩

end Numbering

namespace Relation

variable {now : Timestamp} {relation middle grown : Relation} {targets : List (Column × Nat)}

/-- Rows are worked out one part of them after the other. -/
theorem newRows_append (numbering : Numbering) (front back : List Tree) :
    relation.newRows now targets numbering (front ++ back) = (do
      let (rows, numbering) ← relation.newRows now targets numbering front
      let (others, numbering) ← relation.newRows now targets numbering back
      return (rows ++ others, numbering)) := by
  induction front generalizing numbering with
  | nil =>
      rw [List.nil_append]
      simp only [newRows, bind, Except.bind]
      cases relation.newRows now targets numbering back <;> rfl
  | cons tuple tuples induction =>
      simp only [List.cons_append, newRows, induction]
      split
      · rfl
      · simp only [bind_assoc, pure_bind, List.cons_append]

theorem newRows_of_sequence_eq {numbering other after : Numbering}
    (same : numbering.sequence = other.sequence) {tuples : List Tree} {rows : List Row}
    (done : relation.newRows now targets numbering tuples = .ok (rows, after)) :
    ∃ behind, relation.newRows now targets other tuples = .ok (rows, behind) ∧
      after.sequence = behind.sequence := by
  induction tuples generalizing numbering other rows with
  | nil =>
      obtain ⟨rfl, rfl⟩ := Prod.mk.inj (Except.ok.inj done)
      exact ⟨other, rfl, same⟩
  | cons tuple tuples induction =>
      simp only [newRows] at done ⊢
      split at done
      · simp [Checked.bind_eq_ok] at done
      · rename_i fits
        simp only [Checked.bind_eq_ok, Checked.pure_eq_ok, Prod.mk.injEq, if_neg fits] at done ⊢
        obtain ⟨given, values, ⟨row, middle⟩, first, ⟨others, last⟩, rest, rfl, rfl⟩ := done
        obtain ⟨between, also, meets⟩ := Numbering.row_of_sequence_eq same first
        obtain ⟨behind, then_also, ends⟩ := induction meets rest
        exact ⟨behind, ⟨given, values, (row, between), also, (others, behind), then_also, rfl,
          rfl⟩, ends⟩

theorem targets_withRows (names : List Tree) (rows : List Row) (sequence : Int64) :
    Relation.targets { relation with rows, sequence } names = relation.targets names := by
  have named (seen : List Nat) (names : List Tree) :
      targets.named { relation with rows, sequence } seen names =
        targets.named relation seen names := by
    induction names generalizing seen with
    | nil => rfl
    | cons name names induction =>
        simp only [targets.named, induction]
        rfl
  simp only [targets, named]

theorem newRows_withRows (rows : List Row) (sequence : Int64) (numbering : Numbering)
    (tuples : List Tree) :
    Relation.newRows now { relation with rows, sequence } targets numbering tuples =
      relation.newRows now targets numbering tuples := by
  induction tuples generalizing numbering with
  | nil => rfl
  | cons tuple tuples induction => simp only [newRows, induction]

/-- The last number given before a statement is the last one behind it only if the statement gives
none itself. -/
theorem newRows_eq_ok_of_one_le {sequence : Int64} (one_le : 1 ≤ sequence) (lastId : Int64)
    {tuples : List Tree} {rows : List Row} {after : Numbering} :
    relation.newRows now targets ⟨sequence, lastId⟩ tuples = .ok (rows, after) ↔
      ∃ next last, relation.newRows now targets ⟨sequence, 0⟩ tuples = .ok (rows, ⟨next, last⟩) ∧
        after = ⟨next, if last = 0 then lastId else last⟩ := by
  have ends {rows : List Row} {after behind : Numbering}
      (done : relation.newRows now targets ⟨sequence, lastId⟩ tuples = .ok (rows, after))
      (also : relation.newRows now targets ⟨sequence, 0⟩ tuples = .ok (rows, behind)) :
      after.lastId = if behind.lastId = 0 then lastId else behind.lastId := by
    obtain ⟨⟨ids, handed, gives⟩, -⟩ := gives_of_newRows done
    obtain ⟨⟨ids', handed', gives'⟩, -⟩ := gives_of_newRows also
    obtain rfl : ids = ids' :=
      List.map_injective_iff.mpr (fun _ _ => Value.integer.inj) (handed.symm.trans handed')
    rw [gives.lastId_eq, gives'.lastId_eq]
    cases last : ids.getLast? with
    | none => rfl
    | some id =>
        have given := (gives'.within id (List.mem_of_getLast? last)).1
        have nonzero : id ≠ 0 := by
          rintro rfl
          exact absurd (Int64.le_trans one_le given) (by decide)
        simp [nonzero]
  have starts : Numbering.sequence ⟨sequence, lastId⟩ = Numbering.sequence ⟨sequence, 0⟩ := rfl
  constructor
  · intro done
    obtain ⟨behind, also, same⟩ := newRows_of_sequence_eq starts done
    refine ⟨behind.sequence, behind.lastId, also, ?_⟩
    rw [← ends done also, ← same]
  · rintro ⟨next, last, also, rfl⟩
    obtain ⟨after, done, same⟩ := newRows_of_sequence_eq starts.symm also
    have given := ends done also
    dsimp only at same given
    rw [done, same, ← given]

/-! ## What an insertion makes of a table -/

/-- Whether a table takes in the rows that nodes stand for, in the columns that a list names: it
becomes another table, and `lastId` is the last number that it gives to them, or zero. -/
structure Takes (now : Timestamp) (relation : Relation) (names tuples : List Tree)
    (lastId : Int64) (grown : Relation) : Prop where
  /-- The rows stand for cells that the columns admit, and those that they leave out are filled. -/
  rows : ∃ targets rows, relation.targets names = .ok targets ∧
    relation.newRows now targets ⟨relation.sequence, 0⟩ tuples =
      .ok (rows, ⟨grown.sequence, lastId⟩) ∧
    grown = { relation with rows := relation.rows ++ rows, sequence := grown.sequence }
  /-- No value stands twice where none may. -/
  distinct : grown.DistinctKeys grown.rows

variable {names tuples : List Tree} {lastId : Int64}

theorem Takes.name_eq (takes : relation.Takes now names tuples lastId grown) :
    grown.name = relation.name := by
  obtain ⟨targets, rows, -, -, same⟩ := takes.rows
  rw [same]

theorem Takes.targets_eq (takes : relation.Takes now names tuples lastId grown) :
    grown.targets names = relation.targets names := by
  obtain ⟨targets, rows, -, -, same⟩ := takes.rows
  rw [same, targets_withRows]

theorem Takes.timeless (takes : relation.Takes now names tuples lastId grown)
    (timeless : ∀ tuple ∈ tuples, tuple.Timeless) (later : Timestamp) :
    relation.Takes later names tuples lastId grown := by
  obtain ⟨⟨targets, rows, targeted, done, same⟩, distinct⟩ := takes
  rw [newRows_timeless timeless now later] at done
  exact ⟨⟨targets, rows, targeted, done, same⟩, distinct⟩

/-- Taking in several rows is taking in the first of them, and then the others. -/
theorem takes_append (front back : List Tree) (one_le : 1 ≤ relation.sequence) :
    relation.Takes now names (front ++ back) lastId grown ↔
      ∃ first middle second, relation.Takes now names front first middle ∧
        middle.Takes now names back second grown ∧
        lastId = if second = 0 then first else second := by
  constructor
  · rintro ⟨⟨targets, rows, targeted, done, same⟩, distinct⟩
    rw [newRows_append] at done
    simp only [Checked.bind_eq_ok, Checked.pure_eq_ok, Prod.mk.injEq] at done
    obtain ⟨⟨old, ⟨sequence, first⟩⟩, started, ⟨new, after⟩, rest, rfl, rfl⟩ := done
    obtain ⟨⟨ids, -, gives⟩, -⟩ := gives_of_newRows started
    have one_le_sequence : 1 ≤ sequence := Int64.le_trans one_le gives.sequence_le
    obtain ⟨_, second, also, ends⟩ := (newRows_eq_ok_of_one_le one_le_sequence first).mp rest
    obtain ⟨rfl, rfl⟩ := Numbering.mk.inj ends
    rw [same] at distinct
    refine ⟨first, { relation with rows := relation.rows ++ old, sequence }, second,
      ⟨⟨targets, old, targeted, started, rfl⟩, ?_⟩, ⟨⟨targets, new, ?_, ?_, ?_⟩, ?_⟩, rfl⟩
    · intro column place here unique
      refine (distinct column place here unique).sublist ?_
      simp
    · rw [targets_withRows, targeted]
    · rw [newRows_withRows, also]
    · rw [same]
      simp
    · rw [same]
      exact distinct
  · rintro ⟨first, middle, second, ⟨⟨targets, old, targeted, started, same⟩, -⟩,
      ⟨⟨targets', new, targeted', rest, same'⟩, distinct⟩, rfl⟩
    rw [same, targets_withRows, targeted] at targeted'
    obtain rfl := Except.ok.inj targeted'
    rw [same, newRows_withRows] at rest
    obtain ⟨⟨ids, -, gives⟩, -⟩ := gives_of_newRows started
    have one_le_sequence : 1 ≤ middle.sequence := Int64.le_trans one_le gives.sequence_le
    have goes_on := (newRows_eq_ok_of_one_le one_le_sequence first).mpr ⟨_, _, rest, rfl⟩
    refine ⟨⟨targets, old ++ new, targeted, ?_, ?_⟩, distinct⟩
    · rw [newRows_append]
      exact Checked.bind_eq_ok.mpr ⟨_, started, Checked.bind_eq_ok.mpr ⟨_, goes_on, rfl⟩⟩
    · rw [same', same]
      simp

theorem takes_nil (sound : relation.Sound) {targets : List (Column × Nat)}
    (targeted : relation.targets names = .ok targets) :
    relation.Takes now names [] lastId grown ↔ lastId = 0 ∧ grown = relation := by
  constructor
  · rintro ⟨⟨_, rows, -, done, same⟩, -⟩
    obtain ⟨rfl, numbering⟩ := Prod.mk.inj (Except.ok.inj done)
    obtain ⟨sequence, rfl⟩ := Numbering.mk.inj numbering
    rw [List.append_nil, ← sequence] at same
    exact ⟨rfl, same⟩
  · rintro ⟨rfl, rfl⟩
    exact ⟨⟨targets, [], targeted, rfl, by rw [List.append_nil]⟩, sound.keys_distinct⟩

/-- A table that takes in rows is as sound as before. -/
theorem Sound.takes (sound : relation.Sound)
    (takes : relation.Takes now names tuples lastId grown) : grown.Sound := by
  obtain ⟨⟨targets, rows, targeted, done, same⟩, distinct⟩ := takes
  have fit : ∀ row ∈ relation.rows ++ rows, relation.Fits row := by
    intro row member
    rcases List.mem_append.mp member with old | new
    · exact sound.rows_fit row old
    · exact fits_of_newRows sound.columns_sound (fun _ _ => getElem?_of_targets targeted) done row
        new
  rw [same] at distinct ⊢
  exact sound.withRows fit distinct _

theorem Takes.one_le_sequence (takes : relation.Takes now names tuples lastId grown)
    (one_le : 1 ≤ relation.sequence) : 1 ≤ grown.sequence := by
  obtain ⟨⟨targets, rows, -, done, -⟩, -⟩ := takes
  obtain ⟨⟨ids, -, gives⟩, -⟩ := gives_of_newRows done
  exact Int64.le_trans one_le gives.sequence_le

theorem length_of_newRows {numbering after : Numbering} {rows : List Row}
    (done : relation.newRows now targets numbering tuples = .ok (rows, after)) :
    rows.length = tuples.length := by
  induction tuples generalizing numbering rows with
  | nil =>
      obtain ⟨rfl, -⟩ := Prod.mk.inj (Except.ok.inj done)
      rfl
  | cons tuple tuples induction =>
      simp only [newRows] at done
      split at done
      · simp [Checked.bind_eq_ok] at done
      · simp only [Checked.bind_eq_ok, Checked.pure_eq_ok, Prod.mk.injEq] at done
        obtain ⟨given, -, ⟨row, middle⟩, -, ⟨others, last⟩, rest, rfl, rfl⟩ := done
        rw [List.length_cons, List.length_cons, induction rest]

theorem Takes.unique {lastId' : Int64} {grown' : Relation}
    (takes : relation.Takes now names tuples lastId grown)
    (takes' : relation.Takes now names tuples lastId' grown') :
    lastId = lastId' ∧ grown = grown' := by
  obtain ⟨⟨targets, rows, targeted, done, same⟩, -⟩ := takes
  obtain ⟨⟨targets', rows', targeted', done', same'⟩, -⟩ := takes'
  rw [targeted] at targeted'
  obtain rfl := Except.ok.inj targeted'
  rw [done] at done'
  obtain ⟨rfl, numbering⟩ := Prod.mk.inj (Except.ok.inj done')
  obtain ⟨sequence, rfl⟩ := Numbering.mk.inj numbering
  exact ⟨rfl, same.trans (sequence ▸ same'.symm)⟩

end Relation

/-! ## Insertions as statements -/

/-- Of several numbers the last one is kept that is not zero. -/
theorem Reply.lastId_changed_cons (id affected : Int) (replies : List Reply) :
    lastId (.changed id affected :: replies) =
      if lastId replies = 0 then id else lastId replies := by
  rw [lastId_eq, lastId_eq]
  unfold Message.lastNonZeroId
  rw [List.flatMap_cons, List.filterMap_append]
  generalize (replies.flatMap messages).filterMap Message.lastId? = ids
  change ((id :: ids).filter (· ≠ 0)).getLast?.getD 0 = _
  by_cases zero : id = 0
  · simp [zero]
  · rw [List.filter_cons_of_pos (by simpa using zero), List.getLast?_cons]
    cases last : (ids.filter (· ≠ 0)).getLast? with
    | none => simp
    | some given =>
        have nonzero : given ≠ 0 := by
          simpa using (List.mem_filter.mp (List.mem_of_getLast? last)).2
        simp [nonzero]

theorem Tree.insertion?_eq_some {tree into : Tree} {tuples : List Tree} :
    tree.insertion? = some (into, tuples) ↔
      tree.token = .insert ∧ (tree.find? .into).bind onlyChild? = some into ∧
        ∃ values, tree.find? .values = some values ∧ values.children = tuples := by
  unfold insertion?
  by_cases token : tree.token = .insert <;> simp [token, Option.bind_eq_some_iff]

namespace Database

variable {now : Timestamp} {database after : Database} {tree into : Tree} {tuples : List Tree}
  {reply : Reply}

/-- An insertion succeeds just where its table takes in the rows, and answers with their number. -/
theorem Sound.execute_insertion_eq_ok (sound : database.Sound)
    (inserts : tree.insertion? = some (into, tuples)) :
    database.execute now tree = .ok (reply, after) ↔
      into.token = .identifier ∧ ∃ relation grown lastId,
        database.find? into.lexeme = some relation ∧
        relation.Takes now into.children tuples lastId grown ∧
        reply = .changed lastId.toInt tuples.length ∧ after = database.put grown := by
  obtain ⟨token, named, values, valued, rfl⟩ := Tree.insertion?_eq_some.mp inserts
  unfold Database.execute
  rw [token]
  constructor
  · intro done
    have identifier : into.token = .identifier := by
      simp only [Database.runInsert, named] at done
      split at done
      · rename_i is
        obtain rfl := Option.some.inj is
        rfl
      · simp [Checked.bind_eq_ok] at done
    obtain ⟨into', values', relation, targets, rows, ⟨sequence, lastId⟩, named', valued', found,
      targeted, rowed, unique, wide, rfl, rfl⟩ := runInsert_eq_ok done
    obtain rfl := Option.some.inj (named.symm.trans named')
    obtain rfl := Option.some.inj (valued.symm.trans valued')
    have widths : ∀ row ∈ relation.rows ++ rows, row.length = relation.columns.length := by
      intro row member
      rcases List.mem_append.mp member with old | new
      · exact ((sound _ _ found).2.rows_fit row old).length_eq
      · exact wide row new
    refine ⟨identifier, relation, _, lastId, found, ⟨⟨targets, rows, targeted, rowed, rfl⟩,
      (Relation.checkUnique_eq_ok widths).mp unique⟩, ?_, rfl⟩
    rw [Relation.length_of_newRows rowed]
  · rintro ⟨identifier, relation, grown, lastId, found,
      ⟨⟨targets, rows, targeted, rowed, same⟩, distinct⟩, rfl, rfl⟩
    obtain ⟨token, name, children⟩ := into
    obtain rfl : token = .identifier := identifier
    have fit := (sound name relation found).2.takes
      ⟨⟨targets, rows, targeted, rowed, same⟩, distinct⟩ |>.rows_fit
    rw [same] at fit distinct
    have wide : ∀ row ∈ relation.rows ++ rows, row.length = relation.columns.length :=
      fun row member => (fit row member).length_eq
    have inserted : relation.insertAll rows = .ok { relation with rows := relation.rows ++ rows } :=
      Relation.insertAll_eq_ok.mpr ⟨fun row new => wide row (List.mem_append_right _ new),
        (Relation.checkUnique_eq_ok wide).mpr distinct, rfl⟩
    have counted := Relation.length_of_newRows rowed
    simp only [Database.runInsert, named, Checked.bind_eq_ok, Checked.pure_eq_ok,
      Tree.require_eq_ok, relation_eq_ok]
    exact ⟨_, rfl, values, valued, relation, found, targets, targeted, _, rowed, _, inserted,
      by rw [counted, same]⟩

theorem run_of_parse {text : String} (read : Script.parse text = .ok [tree]) :
    database.run now text =
      match database.execute now tree with
      | .ok (reply, after) => ⟨[reply], none, after⟩
      | .error error => ⟨[], some error, database⟩ := by
  simp only [run, read, runAll]
  cases database.execute now tree <;> rfl

/-- Whether a text is the insertion of one row, in the columns of a table that a node names. -/
def InsertsRow (into tuple : Tree) (text : String) : Prop :=
  ∃ tree, Script.parse text = .ok [tree] ∧ tree.insertion? = some (into, [tuple])

theorem breaks_of_insertsRow {into : Tree} {tuples : List Tree} {texts : List String}
    (each : List.Forall₂ (InsertsRow into) tuples texts) :
    ∀ text ∈ texts, Script.breaks text = false := by
  induction each with
  | nil => exact fun _ contra => nomatch contra
  | cons first _ induction =>
      obtain ⟨_, read, -⟩ := first
      exact List.forall_mem_cons.mpr ⟨Script.breaks_of_parse read, induction⟩

/-- Insertions of one row each, run one after the other, come to what the table makes of all rows:
if it takes them in, all succeed, and else one of them fails. -/
theorem runEach_insertions (now : Timestamp) (sound : database.Sound) {relation : Relation}
    (identifier : into.token = .identifier) (found : database.find? into.lexeme = some relation)
    (one_le : 1 ≤ relation.sequence) {targets : List (Column × Nat)}
    (targeted : relation.targets into.children = .ok targets) {texts : List String}
    (each : List.Forall₂ (InsertsRow into) tuples texts) :
    (∃ lastId grown replies, relation.Takes now into.children tuples lastId grown ∧
      database.runEach now texts = ⟨replies, none, database.put grown⟩ ∧
      Reply.lastId replies = lastId.toInt ∧ Reply.affected replies = tuples.length) ∨
    (∀ lastId grown, ¬ relation.Takes now into.children tuples lastId grown) ∧
      (database.runEach now texts).failure ≠ none := by
  induction each generalizing database relation with
  | nil =>
      obtain ⟨named, conforms⟩ := sound _ _ found
      refine .inl ⟨0, relation, [], (relation.takes_nil conforms targeted).mpr ⟨rfl, rfl⟩, ?_, rfl,
        rfl⟩
      rw [put_find? (named ▸ found)]
      rfl
  | @cons tuple text tuples texts first _ induction =>
      obtain ⟨tree, read, inserts⟩ := first
      cases done : database.execute now tree with
      | error error =>
          refine .inr ⟨fun lastId grown takes => ?_, ?_⟩
          · obtain ⟨id, middle, -, starts, -⟩ :=
              (Relation.takes_append [tuple] tuples one_le).mp takes
            have executed := (sound.execute_insertion_eq_ok inserts).mpr
              ⟨identifier, relation, middle, id, found, starts, rfl, rfl⟩
            rw [executed] at done
            contradiction
          · rw [runEach, run_of_parse read, done]
            simp
      | ok result =>
          obtain ⟨reply, after⟩ := result
          obtain ⟨-, table, middle, first, there, starts, rfl, rfl⟩ :=
            (sound.execute_insertion_eq_ok inserts).mp done
          obtain rfl := Option.some.inj (found.symm.trans there)
          have same_name : middle.name = relation.name := starts.name_eq
          have present : (database.put middle).find? into.lexeme = some middle := by
            rw [find?_put, same_name, if_pos (sound _ _ found).1]
          have goes_on : middle.targets into.children = .ok targets :=
            starts.targets_eq.trans targeted
          have head : database.runEach now (text :: texts) =
              ((database.put middle).runEach now texts).after [.changed first.toInt 1] := by
            rw [runEach, run_of_parse read, done]
            rfl
          rcases induction (sound.execute done) present (starts.one_le_sequence one_le) goes_on with
            ⟨second, grown, replies, rest, ran, last, total⟩ | ⟨never, failed⟩
          · refine .inl ⟨if second = 0 then first else second, grown,
              .changed first.toInt 1 :: replies,
              (Relation.takes_append [tuple] tuples one_le).mpr
                ⟨first, middle, second, starts, rest, rfl⟩, ?_, ?_, ?_⟩
            · rw [head, ran, put_put _ rest.name_eq]
              rfl
            · rw [Reply.lastId_changed_cons, last]
              by_cases none : second = 0
              · simp [none]
              · have nonzero : second.toInt ≠ 0 := fun zero => none (Int64.toInt_inj.mp zero)
                rw [if_neg nonzero, if_neg none]
            · change 1 + Reply.affected replies = _
              rw [total, List.length_cons]
              omega
          · refine .inr ⟨fun lastId grown takes => ?_, ?_⟩
            · obtain ⟨_, _, second, starts', rest, -⟩ :=
                (Relation.takes_append [tuple] tuples one_le).mp takes
              obtain ⟨-, rfl⟩ := starts.unique starts'
              exact never second grown rest
            · rw [head]
              exact failed

/-- An insertion of rows succeeds just where the insertions of one row each all do, and leaves the
same database. -/
theorem Sound.executes_as_each (sound : database.Sound) (numbered : database.Numbered)
    (now later : Timestamp) (inserts : tree.insertion? = some (into, tuples)) {texts : List String}
    (each : List.Forall₂ (InsertsRow into) tuples texts) (several : tuples ≠ [])
    (timeless : ∀ tuple ∈ tuples, tuple.Timeless) :
    (∃ (lastId : Int64) (after : Database) (replies : List Reply),
      database.execute now tree = .ok (.changed lastId.toInt tuples.length, after) ∧
      database.runEach later texts = ⟨replies, none, after⟩ ∧
      Reply.lastId replies = lastId.toInt ∧ Reply.affected replies = tuples.length) ∨
    (∃ error, database.execute now tree = .error error) ∧
      ∃ error, (database.runEach later texts).failure = some error := by
  -- Where the table and its columns are there, the rows are taken in one way as the other; where
  -- they are not, the insertion fails, and so does the first of one row.
  by_cases ready : into.token = .identifier ∧ ∃ relation targets,
      database.find? into.lexeme = some relation ∧ relation.targets into.children = .ok targets
  · obtain ⟨identifier, relation, targets, found, targeted⟩ := ready
    have one_le := (numbered _ _ found).one_le_sequence
    rcases runEach_insertions later sound identifier found one_le targeted each with
      ⟨lastId, grown, replies, takes, ran, last, total⟩ | ⟨never, failed⟩
    · refine .inl ⟨lastId, database.put grown, replies, ?_, ran, last, total⟩
      exact (sound.execute_insertion_eq_ok inserts).mpr
        ⟨identifier, relation, grown, lastId, found, takes.timeless timeless now, rfl, rfl⟩
    · refine .inr ⟨?_, Option.ne_none_iff_exists'.mp failed⟩
      cases done : database.execute now tree with
      | error error => exact ⟨error, rfl⟩
      | ok result =>
          obtain ⟨-, table, grown, lastId, there, takes, -, -⟩ :=
            (sound.execute_insertion_eq_ok inserts).mp done
          obtain rfl := Option.some.inj (found.symm.trans there)
          exact absurd (takes.timeless timeless later) (never lastId grown)
  · have fails {tree : Tree} {tuples : List Tree} (now : Timestamp)
        (inserts : tree.insertion? = some (into, tuples)) :
        ∃ error, database.execute now tree = .error error := by
      cases done : database.execute now tree with
      | error error => exact ⟨error, rfl⟩
      | ok result =>
          obtain ⟨identifier, relation, grown, lastId, found, takes, -, -⟩ :=
            (sound.execute_insertion_eq_ok inserts).mp done
          obtain ⟨targets, -, targeted, -, -⟩ := takes.rows
          exact absurd ⟨identifier, relation, targets, found, targeted⟩ ready
    refine .inr ⟨fails now inserts, ?_⟩
    cases each with
    | nil => exact absurd rfl several
    | cons first others =>
        obtain ⟨single, read, inserts⟩ := first
        obtain ⟨error, failed⟩ := fails later inserts
        exact ⟨error, by rw [Database.runEach, run_of_parse read, failed]⟩

/-- Behind every history, an insertion of rows without the current time and a batch of insertions of
one of the rows each come to the same: either both answer with the same last number given and with
the number of rows, and leave the same database, or both answer with an error, and leave the
database as it was. -/
theorem insertion_row_by_row_after_calls (history : List (Timestamp × Call)) (now later : Timestamp)
    {text : String} {texts : List String} (read : Script.parse text = .ok [tree])
    (inserts : tree.insertion? = some (into, tuples))
    (each : List.Forall₂ (InsertsRow into) tuples texts) (several : tuples ≠ [])
    (timeless : ∀ tuple ∈ tuples, tuple.Timeless) :
    let database := empty.calls history
    let whole := database.run now text
    let batch := database.runBatch later texts
    (∃ lastId : Int64, whole.messages = [.result lastId.toInt tuples.length] ∧
      batch.messages = [.result lastId.toInt tuples.length] ∧ batch.database = whole.database) ∨
    ∃ error error' : Error, whole.messages = [error.toMessage] ∧
      batch.messages = [error'.toMessage] ∧ whole.database = database ∧
      batch.database = database := by
  intro database whole batch
  have sound : database.Sound := sound_empty.calls history
  have numbered : database.Numbered :=
    (leads_deeds .empty history).numbered sound_empty numbered_empty
  rcases sound.executes_as_each numbered now later inserts each several timeless with
    ⟨lastId, after, replies, done, ran, last, total⟩ | ⟨⟨error, failed⟩, error', failed'⟩
  · refine .inl ⟨lastId, ?_⟩
    simp [whole, batch, run_of_parse read, done, runBatch, ran, last, total, Outcome.messages,
      Outcome.reported, Reply.messages]
  · have calm : error.isCrash = false := by
      have whole := crashes_run now database text
      rw [Script.breaks_of_parse read, run_of_parse read, failed] at whole
      exact whole
    have calm' : (database.runEach later texts).crashes = false :=
      crashes_runEach (breaks_of_insertsRow each)
    have told : error'.isCrash = false := by simpa [Outcome.crashes, failed'] using calm'
    have reported := Outcome.reported_of_failure failed' told
    refine .inr ⟨error, error', ?_⟩
    simp [whole, batch, run_of_parse read, failed, runBatch_of_reported reported, Outcome.messages,
      Outcome.reported, calm, told]

/-- A row that brings its number along, and one that is given the next. -/
theorem insertion_of_two_rows :
    let now := Date.atMidnight ⟨1970, 1, 1, by decide⟩
    let made := [(now, Call.script "CREATE TABLE t (id SERIAL PRIMARY KEY, a TEXT UNIQUE)")]
    let text := "INSERT INTO t (id, a) VALUES (5, 'x'), (NULL, 'y')"
    let texts :=
      ["INSERT INTO t (id, a) VALUES (5, 'x')", "INSERT INTO t (id, a) VALUES (NULL, 'y')"]
    let whole := (empty.calls made).run now text
    let batch := (empty.calls made).runBatch now texts
    ∃ (tree into : Tree) (tuples : List Tree), Script.parse text = .ok [tree] ∧
      tree.insertion? = some (into, tuples) ∧ List.Forall₂ (InsertsRow into) tuples texts ∧
      tuples ≠ [] ∧ (∀ tuple ∈ tuples, tuple.Timeless) ∧
      whole.messages = [.result 6 2] ∧ batch.messages = whole.messages ∧
      batch.database = whole.database := by
  intro now made text texts whole batch
  let into : Tree := ⟨.identifier, "t", [⟨.identifier, "id", []⟩, ⟨.identifier, "a", []⟩]⟩
  let numbered : Tree := ⟨.tuple, "()", [⟨.number, "5", []⟩, ⟨.stringLit, "x", []⟩]⟩
  let open_number : Tree := ⟨.tuple, "()", [⟨.nullWord, "NULL", []⟩, ⟨.stringLit, "y", []⟩]⟩
  let insertion (tuples : List Tree) : Tree :=
    ⟨.insert, "INSERT", [⟨.into, "INTO", [into]⟩, ⟨.values, "VALUES", tuples⟩]⟩
  have read : Script.parse text = .ok [insertion [numbered, open_number]] := by
    decide +kernel
  have each : List.Forall₂ (InsertsRow into) [numbered, open_number] texts :=
    .cons ⟨insertion [numbered], by decide +kernel, rfl⟩
      (.cons ⟨insertion [open_number], by decide +kernel, rfl⟩ .nil)
  have timeless : ∀ tuple ∈ [numbered, open_number], tuple.Timeless := by decide +kernel
  have answered : whole.messages = [.result 6 2] := by decide +kernel
  refine ⟨_, into, _, read, rfl, each, by simp, timeless, answered, ?_⟩
  rcases insertion_row_by_row_after_calls made now now read rfl each (by simp) timeless with
    ⟨lastId, told, also, same⟩ | ⟨error, -, failed, -⟩
  · exact ⟨also.trans told.symm, same⟩
  · have wrong : [Message.result 6 2] = [error.toMessage] := answered.symm.trans failed
    simp [Error.toMessage] at wrong

end Database
end SqlEngine
