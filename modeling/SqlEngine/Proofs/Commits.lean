import SqlEngine.Proofs.Replies
import SqlEngine.Proofs.Shells
import SqlEngine.Proofs.Timeless

/-!
# A transaction comes to what its lines come to

Lines that a transaction keeps are run as a batch when it is applied.  If the shell had been given
them outside of a transaction, it would have run them one after the other; the two agree on the
database, on the number of rows and on the first error.
-/

namespace SqlEngine

/-- A script that can be read has a statement. -/
theorem Script.ne_nil_of_parse {text : String} {trees : List Tree}
    (parsed : parse text = .ok trees) :
    trees ≠ [] := by
  unfold parse at parsed
  split at parsed
  · contradiction
  · rintro rfl
    exact absurd (List.forall₂_nil_right_iff.mp (Checked.mapM_eq_ok.mp parsed)) (by simp)

namespace Database

theorem replies_ne_nil_of_runAll {now : Timestamp} {database : Database} {trees : List Tree}
    (some : trees ≠ []) (succeeded : (database.runAll now trees).failure = none) :
    (database.runAll now trees).replies ≠ [] := by
  obtain ⟨tree, trees, rfl⟩ := List.exists_cons_of_ne_nil some
  cases executed : database.execute now tree with
  | error error => simp [runAll, executed] at succeeded
  | ok result => simp [runAll, executed, Outcome.after]

/-- A script that is run to its end has a reply. -/
theorem replies_ne_nil_of_run {now : Timestamp} {database : Database} {text : String}
    (succeeded : (database.run now text).failure = none) :
    (database.run now text).replies ≠ [] := by
  unfold run at succeeded ⊢
  cases parsed : Script.parse text with
  | error error => simp [parsed] at succeeded
  | ok trees =>
      simp only [parsed] at succeeded ⊢
      exact replies_ne_nil_of_runAll (Script.ne_nil_of_parse parsed) succeeded

end Database

/-! ## Lines that a transaction keeps -/

namespace BoxTable

theorem head?_join {separator c : Char} {part : List Char} (first : part.head? = some c)
    (parts : List (List Char)) : (join separator (part :: parts)).head? = some c := by
  cases parts with
  | nil => exact first
  | cons other parts => simp [join, first]

theorem head?_draw (header : List String) (rows : List (List String)) :
    (draw header rows).toList.head? = some '┌' := by
  simp only [draw, List.cons_append, String.toList_ofList]
  exact head?_join rfl _

end BoxTable

theorem Transaction.queue_eq_ok {transaction after : Transaction} {script : String}
    (kept : transaction.queue script = .ok after) :
    after = ⟨transaction.pending ++ [script]⟩ := by
  unfold queue at kept
  obtain ⟨trees, -, kept⟩ := Checked.bind_eq_ok.mp kept
  obtain ⟨-, -, kept⟩ := Checked.bind_eq_ok.mp kept
  exact (Except.ok.inj kept).symm

namespace Shell

/-- Whether a shell answers that it keeps a line. -/
def IsQueued (answer : Except Error String) : Prop :=
  ∃ count : Nat, answer = .ok s!"queued ({count} pending)"

theorem not_isQueued_ok {text : String} (other : text.toList.head? ≠ some 'q') :
    ¬ IsQueued (.ok text) := by
  rintro ⟨count, same⟩
  rw [Except.ok.inj same] at other
  simp [String.toList_append, toString] at other

theorem not_isQueued_map {α : Type} {shown : α → String}
    (other : ∀ value, (shown value).toList.head? ≠ some 'q') (outcome : Except Error α) :
    ¬ IsQueued (outcome.map shown) := by
  cases outcome with
  | error error =>
      rintro ⟨count, same⟩
      cases same
  | ok value => exact not_isQueued_ok (other value)

theorem head?_render (set : RowSet) : (render set).toList.head? ≠ some 'q' := by
  unfold render
  split
  · decide
  · simp [String.toList_append, toString, BoxTable.head?_draw]

theorem head?_changeText (result : ChangeResult) :
    (changeText result).toList.head? ≠ some 'q' := by
  simp [changeText, String.toList_append, toString]

variable {state : State} {limit : Option Duration} {database : Database} {occasion : Occasion}
  {line : String}

/-- Only a transaction keeps a line, and only one of statements that can be read and do not
query. -/
theorem queue_of_isQueued (queued : IsQueued (run occasion state line).1) :
    classify line = .exec ∧ ∃ transaction after, state.transaction = some transaction ∧
      transaction.queue line = .ok after ∧
      (run occasion state line).2 = { state with transaction := some after } := by
  -- No other answer of a shell reads as that to a line which is kept.
  unfold run at queued ⊢
  split at queued
  · exact absurd queued (not_isQueued_ok (by decide))
  · exact absurd queued (not_isQueued_ok (by decide))
  · exact absurd queued (not_isQueued_map (by simp [String.toList_append, toString]) _)
  · exact absurd queued (not_isQueued_ok (by decide))
  · exact absurd queued (not_isQueued_ok (by decide))
  · exact absurd queued (not_isQueued_ok (by decide))
  · exact absurd queued (not_isQueued_map head?_render _)
  · rename_i transaction action isOpen
    refine ⟨action, transaction, ?_⟩
    unfold queue at queued ⊢
    cases kept : transaction.queue line with
    | error error =>
        simp only [kept] at queued
        obtain ⟨count, same⟩ := queued
        cases same
    | ok after => exact ⟨after, isOpen, rfl, by simp⟩
  · exact absurd queued (not_isQueued_map head?_changeText _)
  · obtain ⟨count, same⟩ := queued
    cases same

/-- A transaction keeps lines in their order. -/
theorem feed_of_isQueued {transaction : Transaction} (isOpen : state.transaction = some transaction)
    {lines : List (Occasion × String)}
    (queued : ∀ answer ∈ (feed state lines).1, IsQueued answer) :
    (∀ line ∈ lines, classify line.2 = .exec) ∧
      (feed state lines).2 =
        { state with transaction := some ⟨transaction.pending ++ lines.map (·.2)⟩ } := by
  induction lines generalizing state transaction with
  | nil => simp [feed, ← isOpen]
  | cons first lines induction =>
      obtain ⟨here, others⟩ := List.forall_mem_cons.mp queued
      obtain ⟨action, held, after, isOpen', kept, next⟩ := queue_of_isQueued here
      obtain rfl := Option.some.inj (isOpen.symm.trans isOpen')
      obtain rfl := Transaction.queue_eq_ok kept
      have opened : (run first.1 state first.2).2.transaction =
          some ⟨transaction.pending ++ [first.2]⟩ := by rw [next]
      obtain ⟨actions, final⟩ := induction opened others
      refine ⟨List.forall_mem_cons.mpr ⟨action, actions⟩, ?_⟩
      change (feed (run first.1 state first.2).2 lines).2 = _
      rw [final, next]
      simp

/-! ## Lines outside of a transaction -/

/-- The first error among answers. -/
def firstError (answers : List (Except Error String)) : Option Error :=
  answers.findSome? fun
    | .ok _ => none
    | .error error => some error

/-- The replies to all statements of lines that are run one after the other. -/
def replies (database : Database) : List (Occasion × String) → List Reply
  | [] => []
  | (occasion, line) :: lines =>
    (database.run occasion.now line).replies ++
      replies (database.run occasion.now line).database lines

/-- Outside of a transaction statements come to the engine at once. -/
theorem run_of_idle (holds : state.Holds limit database) (idle : state.transaction = none)
    (action : classify line = .exec) :
    (run occasion state line).1 =
        ((occasion.tell limit (database.run occasion.now line).messages).bind
          ChangeResult.ofMessages).map changeText ∧
      (run occasion state line).2.Holds limit
        (if occasion.Comes limit then (database.run occasion.now line).database else database) ∧
      (run occasion state line).2.transaction = none := by
  have whole : Script.breaks line = false := breaks_of_classify (by simp [action])
  obtain ⟨answer, holds', kept⟩ := holds.exec occasion whole
  simp only [run, action, idle]
  exact ⟨answer, holds', kept.trans idle⟩

/-- Lines that all succeed have been answered in time. -/
theorem inTime_of_firstError (holds : state.Holds limit database)
    (idle : state.transaction = none) {lines : List (Occasion × String)}
    (actions : ∀ line ∈ lines, classify line.2 = .exec)
    (clear : firstError (feed state lines).1 = none) :
    ∀ line ∈ lines, line.1.InTime limit := by
  induction lines generalizing state database with
  | nil => simp
  | cons first lines induction =>
      obtain ⟨occasion, line⟩ := first
      obtain ⟨action, actions'⟩ := List.forall_mem_cons.mp actions
      obtain ⟨answer, holds', idle'⟩ := @run_of_idle _ _ _ occasion _ holds idle action
      have fed : (feed state ((occasion, line) :: lines)).1 =
          (run occasion state line).1 :: (feed (run occasion state line).2 lines).1 := rfl
      rw [fed, firstError, List.findSome?_cons] at clear
      have heard : occasion.InTime limit := by
        by_contra passed
        obtain ⟨length, rfl⟩ := Occasion.exists_of_not_inTime passed
        rw [Occasion.tell_of_passed passed] at answer
        rw [answer] at clear
        cases clear
      split at clear
      · contradiction
      · exact List.forall_mem_cons.mpr ⟨heard, induction holds' idle' actions' clear⟩

/-- Lines without the current time, given one after the other and answered in time, come to what they
come to when they are run up to the first that fails. -/
theorem feed_of_idle (holds : state.Holds limit database) (idle : state.transaction = none)
    {lines : List (Occasion × String)} (actions : ∀ line ∈ lines, classify line.2 = .exec)
    (timeless : ∀ line ∈ lines, Script.Timeless line.2)
    (inTime : ∀ line ∈ lines, line.1.InTime limit) (now : Timestamp) :
    let outcome := database.runEach now (lines.map (·.2))
    match outcome.failure with
    | none => firstError (feed state lines).1 = none ∧
        (feed state lines).2.Holds limit outcome.database ∧ replies database lines = outcome.replies
    | some error => firstError (feed state lines).1 = some (.ofRemote error.message) := by
  induction lines generalizing state database with
  | nil => exact ⟨rfl, holds, rfl⟩
  | cons first lines induction =>
      obtain ⟨occasion, line⟩ := first
      obtain ⟨action, actions'⟩ := List.forall_mem_cons.mp actions
      obtain ⟨still, timeless'⟩ := List.forall_mem_cons.mp timeless
      obtain ⟨heard, inTime'⟩ := List.forall_mem_cons.mp inTime
      obtain ⟨answer, holds', idle'⟩ := @run_of_idle _ _ _ occasion _ holds idle action
      have said : (run occasion state line).1 =
          (ChangeResult.ofMessages (database.run occasion.now line).messages).map changeText := by
        rw [answer, Occasion.tell_of_inTime heard]
        rfl
      rw [if_pos heard.comes] at holds'
      have fed : (feed state ((occasion, line) :: lines)).1 =
          (run occasion state line).1 :: (feed (run occasion state line).2 lines).1 := rfl
      rw [Database.run_timeless still occasion.now now] at said holds'
      simp only [List.map_cons, Database.runEach, fed, said]
      rcases (database.run now line).cases with succeeded | cut | ⟨error, reported⟩
      · have told := ChangeResult.ofMessages_of_replies succeeded
          (Database.replies_ne_nil_of_run succeeded)
        have rest := induction holds' idle' actions' timeless' inTime'
        simp only [succeeded, told, Outcome.after, replies,
          Database.run_timeless still occasion.now now]
        cases failed : ((database.run now line).database.runEach now
            (lines.map (·.2))).failure with
        | none =>
            simp only [failed] at rest ⊢
            obtain ⟨clear, holds'', same⟩ := rest
            exact ⟨clear, holds'', congrArg _ same⟩
        | some error =>
            simp only [failed] at rest ⊢
            exact rest
      · have whole : Script.breaks line = false := breaks_of_classify (by simp [action])
        rw [Database.crashes_run, whole] at cut
        contradiction
      · simp only [(Outcome.reported_eq_some.mp reported).1,
          ChangeResult.ofMessages_of_reported reported]
        rfl

/-- No transaction is open behind a line that applies or gives up one, whatever came of it. -/
theorem run_ends (ends : classify line = .commit ∨ classify line = .rollback) :
    (run occasion state line).2.transaction = none := by
  rcases ends with action | action
  · cases isOpen : state.transaction <;> simp only [run, action, isOpen]
    rfl
  · cases isOpen : state.transaction <;> simp only [run, action, isOpen]

theorem run_opening_again (action : classify line = .opening) (isOpen : state.transaction.isSome) :
    run occasion state line = (.ok "transaction already open", state) := by
  obtain ⟨transaction, held⟩ := Option.isSome_iff_exists.mp isOpen
  simp only [run, action, held]

/-- The number of rows that a statement changes. -/
def changed : Reply → Int
  | .changed _ affected => affected
  | .rows _ _ => 0

/-- The number of rows that statements change, one after the other. -/
def changedRows (replies : List Reply) : Int :=
  (replies.map changed).foldr (· + ·) 0

theorem affected_eq_changedRows (replies : List Reply) :
    Reply.affected replies = changedRows replies := by
  unfold changedRows
  induction replies with
  | nil => rfl
  | cons reply replies induction =>
      rw [List.map_cons, List.foldr_cons, ← induction]
      cases reply with
      | changed lastId affected => rfl
      | rows names cells => exact (Int.zero_add _).symm

/-- What a shell says of a transaction that was applied. -/
def commitText (affected : Int) : String :=
  s!"COMMIT ({affected} rows affected)"

/-- A line that applies a transaction of scripts that can be read runs them as a batch, and is told of
it unless the limit passes.  A transaction without scripts is applied in any case. -/
theorem run_commit (holds : state.Holds limit database) {transaction : Transaction}
    (isOpen : state.transaction = some transaction) (action : classify line = .commit)
    (whole : ∀ text ∈ transaction.pending, Script.breaks text = false) :
    let outcome := database.runBatch occasion.now transaction.pending
    (occasion.InTime limit → (run occasion state line).1 =
      (ChangeResult.ofMessages outcome.messages).map (commitText ·.affected)) ∧
    (¬ occasion.InTime limit → transaction.pending ≠ [] → ∃ length, limit = some length ∧
      (run occasion state line).1 = .error (.timeout length)) ∧
    (run occasion state line).2.Holds limit
      (if occasion.Comes limit then outcome.database else database) := by
  intro outcome
  simp only [run, action, isOpen]
  by_cases empty : transaction.pending = []
  · have ran : outcome = ⟨[.changed 0 0], none, database⟩ := by
      simp only [outcome, empty]
      rfl
    obtain rfl : transaction = {} := congrArg Transaction.mk empty
    rw [ran, commit_of_empty, ite_self]
    exact ⟨fun _ => rfl, fun _ some => absurd rfl some, holds⟩
  · obtain ⟨answer, holds'⟩ := holds.commit occasion empty whole
    refine ⟨fun inTime => ?_, fun passed _ => ?_, holds'⟩
    · rw [answer, Occasion.tell_of_inTime inTime]
      rfl
    · obtain ⟨length, rfl⟩ := Occasion.exists_of_not_inTime passed
      exact ⟨length, rfl, by rw [answer, Occasion.tell_of_passed passed]; rfl⟩

/-- Lines that a shell keeps between one that opens a transaction and one that applies it come to
what they come to outside of it: if none of them fails there, the databases are the same, and the
shell reports all rows that their statements change; and else, if all are answered in time there, it
reports the first error, and the database is as it was.  If the limit passes while lines are applied,
the shell reports that in place of what came of them; the database is as it was if they have not come
to the engine.  A line that applies or gives up a transaction leaves none open, and one that would open
a second one leaves the first as it is. -/
theorem commit_agrees_with_single_lines (holds : state.Holds limit database)
    (idle : state.transaction = none) (begun committed : Occasion × String)
    (opening : classify begun.2 = .opening) (committing : classify committed.2 = .commit)
    (lines : List (Occasion × String)) (timeless : ∀ line ∈ lines, Script.Timeless line.2)
    (queued : ∀ answer ∈ (feed (run begun.1 state begun.2).2 lines).1, IsQueued answer) :
    let kept := (feed (run begun.1 state begun.2).2 lines).2
    let applied := run committed.1 kept committed.2
    let direct := feed state lines
    (firstError direct.1 = none → ∃ final, direct.2.Holds limit final ∧
      (committed.1.Comes limit → applied.2.Holds limit final) ∧
      (committed.1.InTime limit →
        applied.1 = .ok s!"COMMIT ({changedRows (replies database lines)} rows affected)")) ∧
    ((∀ line ∈ lines, line.1.InTime limit) → ∀ error, firstError direct.1 = some error →
      applied.2.Holds limit database ∧ (committed.1.InTime limit → applied.1 = .error error)) ∧
    (¬ committed.1.InTime limit → lines ≠ [] → ∃ length, limit = some length ∧
      applied.1 = .error (.timeout length)) ∧
    (¬ committed.1.Comes limit → applied.2.Holds limit database) ∧
    (∀ (other : State) (occasion : Occasion) (line : String),
      classify line = .commit ∨ classify line = .rollback →
        (run occasion other line).2.transaction = none) ∧
    ∀ (other : State) (occasion : Occasion) (line : String), classify line = .opening →
      other.transaction.isSome →
      run occasion other line = (.ok "transaction already open", other) := by
  rw [run_opening opening idle] at queued ⊢
  obtain ⟨actions, kept⟩ := feed_of_isQueued rfl queued
  simp only [kept, List.nil_append]
  have whole : ∀ text ∈ lines.map (·.2), Script.breaks text = false :=
    List.forall_mem_map.mpr fun line member =>
      breaks_of_classify (by rw [actions line member]; decide)
  have separate (inTime : ∀ line ∈ lines, line.1.InTime limit) :=
    feed_of_idle holds idle actions timeless inTime committed.1.now
  dsimp only at separate
  have pending := holds.withTransaction (some ⟨lines.map (·.2)⟩)
  obtain ⟨answer, late, applied⟩ :=
    @run_commit _ _ _ committed.1 committed.2 pending _ rfl committing whole
  refine ⟨fun clear => ?_, fun inTime error found => ?_,
    fun passed some => late passed (by simpa using some), fun missed => ?_,
    fun other occasion line => run_ends, fun other occasion line => run_opening_again⟩
  · have separate := separate (inTime_of_firstError holds idle actions clear)
    cases failed : (database.runEach committed.1.now (lines.map (·.2))).failure with
    | some error =>
        rw [failed] at separate
        rw [separate] at clear
        cases clear
    | none =>
        rw [failed] at separate
        obtain ⟨-, direct, same⟩ := separate
        rw [Database.runBatch_of_success failed] at answer applied
        refine ⟨_, direct, fun comes => ?_, fun heard => ?_⟩
        · rwa [if_pos comes] at applied
        · rw [answer heard, same, ← affected_eq_changedRows]
          rfl
  · have separate := separate inTime
    cases failed : (database.runEach committed.1.now (lines.map (·.2))).failure with
    | none =>
        rw [failed] at separate
        rw [separate.1] at found
        cases found
    | some failure =>
        rw [failed] at separate
        obtain rfl := Option.some.inj (separate.symm.trans found)
        have calm : (database.runEach committed.1.now (lines.map (·.2))).crashes = false :=
          Database.crashes_runEach whole
        have reported := Outcome.reported_of_failure failed
          (by simpa [Outcome.crashes, failed] using calm)
        rw [Database.runBatch_of_reported reported] at answer applied
        have told : (⟨[], some failure, database⟩ : Outcome).reported = some failure :=
          Outcome.reported_of_failure rfl (Outcome.reported_eq_some.mp reported).2
        refine ⟨by rwa [ite_self] at applied, fun heard => ?_⟩
        rw [answer heard, ChangeResult.ofMessages_of_reported told]
        rfl
  · rwa [if_neg missed] at applied

/-- A connection string with a limit of a millisecond. -/
def limited : String := "mem:local,timeout=1ms*shop/u/p"

theorem isSome_start_limited : (start? {} limited).isSome := by
  decide +kernel

/-- Two lines that both succeed directly and are kept in a transaction.  If the limit passes while they
are applied, the shell reports that; the table is there if they have come to the engine, and else it
is not.  And if the limit passes where the first is run directly, the two are applied all the same. -/
theorem commit_at_the_limit :
    let occasion (wait : Wait) : Occasion := ⟨Date.atMidnight ⟨1970, 1, 1, by decide⟩, wait⟩
    let start := (start? {} limited).get isSome_start_limited
    let lines (wait : Wait) := [(occasion wait, "CREATE TABLE t (a INTEGER)"),
      (occasion .answered, "INSERT INTO t VALUES (1), (2)")]
    let kept := feed (run (occasion .answered) start "BEGIN").2 (lines .answered)
    let applied (wait : Wait) := run (occasion wait) kept.2 "COMMIT"
    let passed : Error := .timeout 1000000
    kept.1 = [.ok "queued (1 pending)", .ok "queued (2 pending)"] ∧
      firstError (feed start (lines .answered)).1 = none ∧
      (applied .late).1 = .error passed ∧ (applied .late).2.rowCount? "t" = some 2 ∧
      (applied .dropped).1 = .error passed ∧ (applied .dropped).2.rowCount? "t" = none ∧
      firstError (feed start (lines .late)).1 = some passed ∧
      (applied .answered).1 = .ok "COMMIT (3 rows affected)" := by
  decide +kernel

/-- A table that is made and filled in a transaction. -/
theorem commit_of_two_lines :
    let occasion : Occasion := { now := Date.atMidnight ⟨1970, 1, 1, by decide⟩ }
    let start := (start? {} "").get isSome_start?
    let lines := [(occasion, "CREATE TABLE t (a INTEGER)"),
      (occasion, "INSERT INTO t VALUES (1), (2)")]
    let applied := run occasion (feed (run occasion start "BEGIN").2 lines).2 "COMMIT"
    applied.1 = .ok "COMMIT (3 rows affected)" ∧
      ∃ final, (feed start lines).2.Holds none final ∧ applied.2.Holds none final := by
  intro occasion start lines applied
  have started : start? {} "" = some start := (Option.some_get _).symm
  obtain ⟨begun, idle⟩ := holds_of_start started
  have answers : (feed (run occasion start "BEGIN").2 lines).1 =
      [.ok "queued (1 pending)", .ok "queued (2 pending)"] := by decide +kernel
  have queued : ∀ answer ∈ (feed (run occasion start "BEGIN").2 lines).1, IsQueued answer := by
    rw [answers]
    simp only [List.forall_mem_cons]
    exact ⟨⟨1, by decide +kernel⟩, ⟨2, by decide +kernel⟩, by simp⟩
  have clear : firstError (feed start lines).1 = none := by decide +kernel
  obtain ⟨final, direct, same, told⟩ := (commit_agrees_with_single_lines begun idle
    (occasion, "BEGIN") (occasion, "COMMIT") (by decide +kernel) (by decide +kernel) lines
    (by decide +kernel) queued).1 clear
  have sum : changedRows (replies .empty lines) = 3 := by decide +kernel
  rw [sum] at told
  exact ⟨told (.inl rfl), final, direct, same (.inl rfl)⟩

end Shell
end SqlEngine
