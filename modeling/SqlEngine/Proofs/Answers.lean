import SqlEngine.Proofs.Commits
import SqlEngine.Proofs.Deeds
import SqlEngine.Proofs.Faults
import SqlEngine.Proofs.SerialEngine

/-!
# What a session gets back

A session sees nothing of a script but messages.  What it makes of them is what the statements of
the script answered: the outcome of the last one that is no query, the rows of the last one that is,
or the first error.  It may have a limit and be told that this has passed.  That the engine has stopped
it is only told of a request that was not run.
-/

namespace SqlEngine

/-! ## The statements of a script -/

namespace Database

variable {now : Timestamp} {database after final : Database} {tree : Tree} {reply : Reply}
  {deeds : List Deed} {text : String} {error : Error}

/-- The reply to a query are rows. -/
theorem reply_of_select (done : database.execute now tree = .ok (reply, after))
    (select : tree.token = .select) : ∃ header cells, reply = .rows header cells := by
  simp only [execute, select, runSelect, Checked.bind_eq_ok, Checked.pure_eq_ok,
    Prod.mk.injEq] at done
  obtain ⟨_, ⟨_, -, _, -, _, -, _, -, _, -, _, -, _, -, _, -, _, -, _, -, _, -, shown⟩, rfl, -⟩ :=
    done
  exact ⟨_, _, shown.symm⟩

/-- The reply to a statement that is no query is the outcome of a change. -/
theorem reply_of_change (done : database.execute now tree = .ok (reply, after))
    (other : tree.token ≠ .select) : ∃ lastId affected, reply = .changed lastId affected := by
  unfold execute at done
  split at done
  · rcases runCreate_eq_ok done with ⟨rfl, -⟩ | ⟨target, -, created⟩
    · exact ⟨_, _, rfl⟩
    · rcases createTable_eq_ok created with ⟨rfl, -⟩ | ⟨_, _, -, -, -, -, rfl, -⟩ <;>
        exact ⟨_, _, rfl⟩
  · exact ⟨_, _, (runDrop_eq_ok done).1⟩
  · obtain ⟨_, _, -, rfl, -⟩ := runTruncate_eq_ok done
    exact ⟨_, _, rfl⟩
  · obtain ⟨_, _, _, _, _, _, -, -, -, -, -, -, -, rfl, -⟩ := runInsert_eq_ok done
    exact ⟨_, _, rfl⟩
  · obtain ⟨_, _, _, _, _, _, _, -, -, -, -, -, rfl, -⟩ := runUpdate_eq_ok done
    exact ⟨_, _, rfl⟩
  · obtain ⟨_, _, _, _, -, -, -, rfl, -⟩ := runDelete_eq_ok done
    exact ⟨_, _, rfl⟩
  · exact absurd ‹_› other
  all_goals contradiction

/-- All statements of a script succeed at one time, as the deeds tell. -/
structure Completes (now : Timestamp) (database : Database) (text : String) (deeds : List Deed)
    (final : Database) : Prop where
  /-- The deeds are those of the statements of the script. -/
  parsed : Script.parse text = .ok (deeds.map (·.tree))
  /-- All of them are done at the time. -/
  timed : ∀ deed ∈ deeds, deed.now = now
  /-- They lead from the database to the one behind the script. -/
  leads : Leads database deeds final

/-- A script fails with an error. -/
inductive Fails (now : Timestamp) (database : Database) (text : String) : Error → Prop where
  /-- The script cannot be read. -/
  | unread {error : Error} (unread : Script.parse text = .error error) :
    Fails now database text error
  /-- Some statements succeed, and the next fails. -/
  | failed {deeds : List Deed} {middle : Database} {tree : Tree} {trees : List Tree}
    {error : Error} (parsed : Script.parse text = .ok (deeds.map (·.tree) ++ tree :: trees))
    (timed : ∀ deed ∈ deeds, deed.now = now) (leads : Leads database deeds middle)
    (fails : middle.execute now tree = .error error) : Fails now database text error

/-- Statements that succeed in front of others are answered first. -/
theorem runAll_of_leads (leads : Leads database deeds final)
    (timed : ∀ deed ∈ deeds, deed.now = now) (trees : List Tree) :
    database.runAll now (deeds.map (·.tree) ++ trees) =
      (final.runAll now trees).after (deeds.map (·.reply)) := by
  induction leads with
  | nil => rfl
  | cons done _ induction =>
      obtain ⟨rfl, others⟩ := List.forall_mem_cons.mp timed
      rw [List.map_cons, List.cons_append, runAll, done]
      simp only [induction others]
      rfl

theorem Completes.run_eq (completes : database.Completes now text deeds final) :
    database.run now text = ⟨deeds.map (·.reply), none, final⟩ := by
  have outcome := runAll_of_leads completes.leads completes.timed []
  rw [List.append_nil] at outcome
  simp [run, completes.parsed, outcome, runAll, Outcome.after]

theorem Fails.failure_eq (fails : database.Fails now text error) :
    (database.run now text).failure = some error := by
  cases fails with
  | unread unread => simp [run, unread]
  | failed parsed timed leads fails =>
      simp [run, parsed, runAll_of_leads leads timed, runAll, fails, Outcome.after]

theorem timed_deedsOfTrees (now : Timestamp) (database : Database) (trees : List Tree) :
    ∀ deed ∈ database.deedsOfTrees now trees, deed.now = now := by
  induction trees generalizing database with
  | nil => simp [deedsOfTrees]
  | cons tree trees induction =>
      rw [deedsOfTrees]
      split
      · simp
      · exact List.forall_mem_cons.mpr ⟨rfl, induction _⟩

/-- The deeds among statements are those in front of the first that fails. -/
theorem trees_of_deedsOfTrees (now : Timestamp) (database : Database) (trees : List Tree) :
    match (database.runAll now trees).failure with
    | none => (database.deedsOfTrees now trees).map (·.tree) = trees
    | some error => ∃ tree others,
        trees = (database.deedsOfTrees now trees).map (·.tree) ++ tree :: others ∧
          (database.runAll now trees).database.execute now tree = .error error := by
  induction trees generalizing database with
  | nil => rfl
  | cons tree trees induction =>
      simp only [deedsOfTrees, runAll]
      cases executed : database.execute now tree with
      | error error => exact ⟨tree, trees, rfl, executed⟩
      | ok result =>
          have rest := induction result.2
          simp only [Outcome.after]
          cases failed : (result.2.runAll now trees).failure with
          | none =>
              rw [failed] at rest
              exact congrArg (tree :: ·) rest
          | some error =>
              rw [failed] at rest
              obtain ⟨next, others, split, fails⟩ := rest
              exact ⟨next, others, congrArg (tree :: ·) split, fails⟩

theorem completes_of_run (succeeded : (database.run now text).failure = none) :
    database.Completes now text (database.deedsOfScript now text)
      (database.run now text).database := by
  have leads := @leads_deedsOfScript now database text
  unfold run deedsOfScript at *
  cases parsed : Script.parse text with
  | error error => simp [parsed] at succeeded
  | ok trees =>
      simp only [parsed] at succeeded leads ⊢
      have all := trees_of_deedsOfTrees now database trees
      rw [succeeded] at all
      exact ⟨parsed.trans (congrArg Except.ok all.symm), timed_deedsOfTrees now database trees,
        leads⟩

theorem fails_of_run (failed : (database.run now text).failure = some error) :
    database.Fails now text error := by
  unfold run at failed
  cases parsed : Script.parse text with
  | error error =>
      simp only [parsed, Option.some.injEq] at failed
      exact failed ▸ .unread parsed
  | ok trees =>
      simp only [parsed] at failed
      have before := trees_of_deedsOfTrees now database trees
      rw [failed] at before
      obtain ⟨tree, others, split, fails⟩ := before
      exact .failed (parsed.trans (congrArg Except.ok split))
        (timed_deedsOfTrees now database trees) (leads_deedsOfTrees database trees) fails

/-- A script completes or fails. -/
theorem completes_or_fails (now : Timestamp) (database : Database) (text : String) :
    (∃ deeds final, database.Completes now text deeds final) ∨
      ∃ error, database.Fails now text error := by
  cases outcome : (database.run now text).failure with
  | none => exact .inl ⟨_, _, completes_of_run outcome⟩
  | some error => exact .inr ⟨error, fails_of_run outcome⟩

end Database

/-! ## The outcome of the last change and the rows of the last query -/

/-- Whether a session is told the outcome of the last of its statements that is no query, and the
rows of the last that is one. -/
structure Tells (deeds : List Deed) (change : Except Error ChangeResult)
    (rows : Except Error RowSet) : Prop where
  /-- The outcome is that of the statement that is no query and has but queries behind it. -/
  lastChange : ∀ front deed back, deeds = front ++ deed :: back → deed.tree.token ≠ .select →
    (∀ other ∈ back, other.tree.token = .select) →
    ∃ lastId affected, deed.reply = .changed lastId affected ∧ change = .ok ⟨lastId, affected⟩
  /-- The outcome of queries alone has two zeros. -/
  noChange : (∀ deed ∈ deeds, deed.tree.token = .select) → change = .ok ⟨0, 0⟩
  /-- The rows are those of the query that has no query behind it. -/
  lastRows : ∀ front deed back, deeds = front ++ deed :: back → deed.tree.token = .select →
    (∀ other ∈ back, other.tree.token ≠ .select) →
    ∃ header cells, deed.reply = .rows header cells ∧ rows = .ok ⟨header, cells⟩
  /-- Without a query there are no rows, and no columns. -/
  noRows : (∀ deed ∈ deeds, deed.tree.token ≠ .select) → rows = .ok ⟨[], []⟩

namespace Database.Completes

variable {now : Timestamp} {database final : Database} {text : String} {deeds : List Deed}

theorem change?_of_select (completes : database.Completes now text deeds final) {deed : Deed}
    (member : deed ∈ deeds) (select : deed.tree.token = .select) : deed.reply.change? = none := by
  obtain ⟨front, back, rfl⟩ := List.append_of_mem member
  obtain ⟨-, done, -⟩ := completes.leads.cut
  obtain ⟨header, cells, same⟩ := reply_of_select done select
  rw [same, Reply.change?_rows]

theorem rowSet?_of_change (completes : database.Completes now text deeds final) {deed : Deed}
    (member : deed ∈ deeds) (other : deed.tree.token ≠ .select) : deed.reply.rowSet? = none := by
  obtain ⟨front, back, rfl⟩ := List.append_of_mem member
  obtain ⟨-, done, -⟩ := completes.leads.cut
  obtain ⟨lastId, affected, same⟩ := reply_of_change done other
  rw [same, Reply.rowSet?_changed]

end Database.Completes

namespace Deed

variable {α : Type} {read : Reply → Option α} {deeds front back : List Deed} {deed : Deed}
  {value : α}

/-- What is read last in the replies to deeds, if nothing is read behind a deed. -/
theorem getLast?_of_last (found : read deed.reply = some value)
    (others : ∀ other ∈ back, read other.reply = none) :
    (((front ++ deed :: back).map (·.reply)).filterMap read).getLast? = some value := by
  have rest : (back.map (·.reply)).filterMap read = [] :=
    List.filterMap_eq_nil_iff.mpr (List.forall_mem_map.mpr others)
  rw [List.map_append, List.map_cons, List.filterMap_append, List.filterMap_cons_some found, rest]
  exact List.getLast?_concat

theorem getLast?_of_none (others : ∀ deed ∈ deeds, read deed.reply = none) :
    ((deeds.map (·.reply)).filterMap read).getLast? = none := by
  rw [List.filterMap_eq_nil_iff.mpr (List.forall_mem_map.mpr others)]
  rfl

end Deed

theorem Database.Completes.tells {now : Timestamp} {database final : Database} {text : String}
    {deeds : List Deed} (completes : database.Completes now text deeds final) :
    Tells deeds (ChangeResult.ofMessages (database.run now text).messages)
      (RowSet.ofMessages (database.run now text).messages) := by
  have succeeded : (database.run now text).failure = none := by rw [completes.run_eq]
  have some := replies_ne_nil_of_run succeeded
  rw [ChangeResult.ofMessages_of_replies succeeded some,
    RowSet.ofMessages_of_replies succeeded some, completes.run_eq]
  constructor
  · rintro front deed back rfl other selects
    obtain ⟨-, done, -⟩ := completes.leads.cut
    obtain ⟨lastId, affected, same⟩ := reply_of_change done other
    refine ⟨lastId, affected, same, ?_⟩
    have found : deed.reply.change? = .some ⟨lastId, affected⟩ := by
      rw [same, Reply.change?_changed]
    rw [Deed.getLast?_of_last found fun deed member =>
      completes.change?_of_select (by simp [member]) (selects deed member)]
    rfl
  · intro selects
    rw [Deed.getLast?_of_none fun deed member =>
      completes.change?_of_select member (selects deed member)]
    rfl
  · rintro front deed back rfl select others
    obtain ⟨-, done, -⟩ := completes.leads.cut
    obtain ⟨header, cells, same⟩ := reply_of_select done select
    refine ⟨header, cells, same, ?_⟩
    have found : deed.reply.rowSet? = .some ⟨header, cells⟩ := by
      rw [same, Reply.rowSet?_rows]
    rw [Deed.getLast?_of_last found fun deed member =>
      completes.rowSet?_of_change (by simp [member]) (others deed member)]
    rfl
  · intro others
    rw [Deed.getLast?_of_none fun deed member =>
      completes.rowSet?_of_change member (others deed member)]
    rfl

/-- The first error is told unless it cuts the run short. -/
theorem Database.Fails.tells {now : Timestamp} {database : Database} {text : String} {error : Error}
    (fails : database.Fails now text error) (whole : Script.breaks text = false) :
    ChangeResult.ofMessages (database.run now text).messages = .error (.ofRemote error.message) ∧
      RowSet.ofMessages (database.run now text).messages = .error (.ofRemote error.message) := by
  have calm : (database.run now text).crashes = false := (crashes_run now database text).trans whole
  have told : error.isCrash = false := by simpa [Outcome.crashes, fails.failure_eq] using calm
  have reported := Outcome.reported_of_failure fails.failure_eq told
  exact ⟨ChangeResult.ofMessages_of_reported reported, RowSet.ofMessages_of_reported reported⟩

/-! ## An engine that has stopped -/

/-- The wordings of the faults that can come of a statement begin with few letters. -/
theorem ShapeFault.IsOrdinary.head_message {fault : ShapeFault} (ordinary : fault.IsOrdinary) :
    fault.message.toList.head? ∈ [some 'u', some 'd', some 'c', some 'A'] := by
  unfold message
  cases fault with
  | unknownColumn column table => simp [toString]
  | duplicateColumn column => simp [toString]
  | listedTwice column => simp [toString]
  | notInteger column => simp [toString]
  | _ => cases ordinary

/-- No wording of an error that can come of a statement says that the engine has stopped. -/
theorem Error.IsOrdinary.message_ne {error : Error} (ordinary : error.IsOrdinary) :
    error.message ≠ "engine stopped" := by
  intro same
  unfold message at same
  have chars := congrArg String.toList same
  -- The wordings begin with other letters, but for two that end in too many.
  cases error with
  | parse fault => simp at chars
  | shape fault =>
      have begins := ShapeFault.IsOrdinary.head_message ordinary
      rw [chars] at begins
      simp at begins
  | notFound table => simp [toString] at chars
  | alreadyExists table => simp [toString] at chars
  | columnCountMismatch => simp at same
  | typeMismatch => simp at same
  | constraint fault => simp at chars
  | unsupported feature =>
      have lengths := congrArg List.length chars
      simp at lengths
  | unimplemented feature =>
      have lengths := congrArg List.length chars
      simp at lengths
  | noCell place => simp [toString] at chars
  | _ => cases ordinary

theorem Error.IsOrdinary.ofRemote_ne {error : Error} (ordinary : error.IsOrdinary) :
    ofRemote error.message ≠ .engineStopped := by
  unfold ofRemote
  split
  · simp
  · split
    · simp
    · simp [ordinary.message_ne]

namespace Request

variable {request : Request} {now : Timestamp} {database : Database}

/-- A request that is run to its end has a reply. -/
theorem replies_ne_nil (succeeded : (request.run now database).failure = none) :
    (request.run now database).replies ≠ [] := by
  cases request with
  | script text => exact Database.replies_ne_nil_of_run succeeded
  | batch texts =>
      simp only [run, Database.runBatch] at succeeded ⊢
      split at succeeded
      · contradiction
      · simp

/-- An error that a request tells of can come of a statement. -/
theorem ordinary_of_run {error : Error} (told : (request.run now database).reported = some error) :
    error.IsOrdinary := by
  cases request with
  | script text => exact Database.ordinary_of_run told
  | batch texts =>
      obtain ⟨failed, calm⟩ := Outcome.reported_eq_some.mp told
      simp only [run, Database.runBatch] at failed
      split at failed
      · rename_i failure ended
        obtain rfl := Option.some.inj failed
        obtain ⟨text, -, before, ended⟩ := Database.exists_of_runEach ended
        exact Database.ordinary_of_run (Outcome.reported_of_failure ended calm)
      · contradiction

/-- A request that is run says something, and not that the engine has stopped. -/
theorem change_ne (whole : request.breaks = false) :
    ChangeResult.ofMessages (request.run now database).messages ≠ .error .engineStopped := by
  rcases (request.run now database).cases with succeeded | cut | ⟨error, reported⟩
  · simp [ChangeResult.ofMessages_of_replies succeeded (replies_ne_nil succeeded)]
  · rw [crashes_run whole] at cut
    contradiction
  · simp [ChangeResult.ofMessages_of_reported reported, (ordinary_of_run reported).ofRemote_ne]

theorem rows_ne (whole : request.breaks = false) :
    RowSet.ofMessages (request.run now database).messages ≠ .error .engineStopped := by
  rcases (request.run now database).cases with succeeded | cut | ⟨error, reported⟩
  · simp [RowSet.ofMessages_of_replies succeeded (replies_ne_nil succeeded)]
  · rw [crashes_run whole] at cut
    contradiction
  · simp [RowSet.ofMessages_of_reported reported, (ordinary_of_run reported).ofRemote_ne]

end Request

/-- What was told of a request is what comes of running it. -/
theorem Intake.exists_run_of_mem_repliesTo {taken : List Intake} {name : String}
    {messages : List Message} (member : messages ∈ repliesTo taken name) :
    ∃ intake ∈ taken, ∃ database, messages = (intake.request.run intake.now database).messages := by
  obtain ⟨reply, member', rfl⟩ := List.mem_map.mp member
  have told := (List.mem_filter.mp member').1
  generalize Database.empty = database at told
  clear member member'
  induction taken generalizing database with
  | nil => cases told
  | cons intake taken induction =>
      rcases List.mem_cons.mp told with rfl | told
      · exact ⟨intake, List.mem_cons_self, database, rfl⟩
      · obtain ⟨found, member, others⟩ := induction _ told
        exact ⟨found, List.mem_cons_of_mem intake member, others⟩

/-- A session is told that the engine has stopped on those of its requests that were not taken, and
on no other. -/
theorem Traffic.stopped_iff {capacity : Nat} {traffic : Traffic}
    (reached : Traffic.Reaches (.start capacity) traffic) {party : Party}
    (member : party ∈ traffic.parties) {place : Nat} {answer : Except Error (List Message)}
    (found : party.answers[place]? = some answer) :
    (answer.bind ChangeResult.ofMessages = .error .engineStopped ↔
      (Intake.requestsOf traffic.taken party.name)[place]? = none) ∧
    (answer.bind RowSet.ofMessages = .error .engineStopped ↔
      (Intake.requestsOf traffic.taken party.name)[place]? = none) := by
  have serves := serves_of_reaches reached member
  have same : (Intake.requestsOf traffic.taken party.name)[place]? = none ↔
      (Intake.repliesTo traffic.taken party.name)[place]? = none := by
    rw [List.getElem?_eq_none_iff, List.getElem?_eq_none_iff, Intake.length_repliesTo]
  rw [same]
  cases told : (Intake.repliesTo traffic.taken party.name)[place]? with
  | none =>
      obtain ⟨-, change, rows⟩ := serves.refused place answer told found
      simp [change, rows]
  | some messages =>
      obtain ⟨rfl, -⟩ := serves.answered place messages answer told found
      obtain ⟨intake, taken, database, rfl⟩ :=
        Intake.exists_run_of_mem_repliesTo (List.mem_of_getElem? told)
      have whole := whole_of_taken reached intake taken
      simp [Except.bind, Request.change_ne whole, Request.rows_ne whole]

namespace Registry

/-- What a session gets back on a script that does not break its reading.  If the engine runs, the
answer comes in time and all statements succeed, it is told what the last of them that is no query and
the last that is one have answered; if one fails, it is told the error of the first that does; and one
of the two is the case.  If its limit passes, it is told that.  An engine that has stopped runs nothing,
and is left as it was.  However sessions and the engine take turns, a session is told that the engine
has stopped on the requests that were not taken, and on no others. -/
theorem told_of_script (occasion : Occasion) (registry : Registry) (session : Session)
    (text : String) (server : Server) (found : registry.server? session = some server) :
    let database := server.engine.database
    let change := (registry.exec occasion session text).1
    let rows := (registry.query occasion session text).1
    (server.engine.running = true → Script.breaks text = false →
      (occasion.InTime server.timeout →
        (∀ deeds final, database.Completes occasion.now text deeds final →
          Tells deeds change rows) ∧
        (∀ error, database.Fails occasion.now text error →
          change = .error (.ofRemote error.message) ∧ rows = .error (.ofRemote error.message)) ∧
        ((∃ deeds final, database.Completes occasion.now text deeds final) ∨
          ∃ error, database.Fails occasion.now text error)) ∧
      (¬ occasion.InTime server.timeout → ∃ limit, server.timeout = some limit ∧
        change = .error (.timeout limit) ∧ rows = .error (.timeout limit)) ∧
      change ≠ .error .engineStopped ∧ rows ≠ .error .engineStopped) ∧
    (server.engine.running = false →
      registry.exec occasion session text = (.error .engineStopped, registry) ∧
      registry.query occasion session text = (.error .engineStopped, registry)) ∧
    ∀ (capacity : Nat) (traffic : Traffic), Traffic.Reaches (.start capacity) traffic →
      ∀ party ∈ traffic.parties, ∀ (place : Nat) (answer : Except Error (List Message)),
        party.answers[place]? = some answer →
        let taken := (Intake.requestsOf traffic.taken party.name)[place]?
        (answer.bind ChangeResult.ofMessages = .error .engineStopped ↔ taken = none) ∧
          (answer.bind RowSet.ofMessages = .error .engineStopped ↔ taken = none) := by
  intro database change rows
  refine ⟨fun running whole => ?_, fun stopped => ?_, fun capacity traffic reached party member
    place answer told => Traffic.stopped_iff reached member told⟩
  · have changed : change = _ := exec_of_running found running occasion text
    have queried : rows = _ := query_of_running found running occasion text
    rw [changed, queried]
    by_cases inTime : occasion.InTime server.timeout
    · rw [Occasion.tell_of_inTime inTime]
      have said : (Request.script text).breaks = false := whole
      have spoken := @Request.change_ne _ occasion.now database said
      have shown := @Request.rows_ne _ occasion.now database said
      simp only [Except.bind]
      exact ⟨fun _ => ⟨fun deeds final completes => completes.tells,
        fun error fails => fails.tells whole,
        Database.completes_or_fails occasion.now database text⟩, fun passed => absurd inTime passed,
        spoken, shown⟩
    · obtain ⟨limit, timeout⟩ := Occasion.exists_of_not_inTime inTime
      rw [timeout] at inTime ⊢
      rw [Occasion.tell_of_passed inTime]
      exact ⟨fun heard => absurd heard inTime, fun _ => ⟨limit, rfl, rfl, rfl⟩, nofun, nofun⟩
  · have refused := request_of_stopped found stopped occasion (.script text)
    constructor
    · simp only [exec, refused]
      rfl
    · simp only [query, refused]
      rfl

/-- A session is told that its limit has passed although all statements of its script succeed, and have
been run. -/
theorem told_at_the_limit :
    let occasion (wait : Wait) : Occasion := ⟨Date.atMidnight ⟨1970, 1, 1, by decide⟩, wait⟩
    let start := (Shell.start? {} Shell.limited).get Shell.isSome_start_limited
    let text := "CREATE TABLE t (a SERIAL); INSERT INTO t VALUES (NULL), (NULL)"
    let behind := (start.registry.exec (occasion .late) start.session text).2
    (start.registry.exec (occasion .late) start.session text).1 = .error (.timeout 1000000) ∧
      (start.registry.query (occasion .late) start.session text).1 = .error (.timeout 1000000) ∧
      (start.registry.exec (occasion .answered) start.session text).1 = .ok ⟨2, 2⟩ ∧
      Shell.State.rowCount? { start with registry := behind } "t" = some 2 := by
  decide +kernel

/-- A session that makes a table, fills it and reads it. -/
theorem told_of_three_statements :
    let occasion : Occasion := { now := Date.atMidnight ⟨1970, 1, 1, by decide⟩ }
    let start := (Shell.start? {} "").get Shell.isSome_start?
    let text := "CREATE TABLE t (a SERIAL); INSERT INTO t VALUES (NULL), (NULL); SELECT a FROM t"
    (start.registry.exec occasion start.session text).1 = .ok ⟨2, 2⟩ ∧
      (start.registry.query occasion start.session text).1 =
        .ok ⟨["a"], [[some "1"], [some "2"]]⟩ := by
  intro occasion start text
  obtain ⟨⟨server, found, running, unlimited, empty⟩, -⟩ :=
    Shell.holds_of_start (Option.some_get Shell.isSome_start?).symm
  have told := (((told_of_script occasion start.registry start.session text server found).1 running
    (by decide +kernel)).1 (.inl unlimited)).1
  have succeeded : (Database.empty.run occasion.now text).failure = none := by decide +kernel
  rw [empty] at told
  have tells := told _ _ (Database.completes_of_run succeeded)
  generalize deeds : Database.empty.deedsOfScript occasion.now text = all at tells
  have kinds : all.map (·.tree.token) = [.create, .insert, .select] := by
    rw [← deeds]
    decide +kernel
  have replies : all.map (·.reply) =
      [.changed 0 1, .changed 2 2, .rows ["a"] [[some "1"], [some "2"]]] := by
    rw [← deeds]
    decide +kernel
  obtain ⟨made, filled, read, rfl⟩ : ∃ made filled read, all = [made, filled, read] :=
    List.length_eq_three.mp (by simpa using congrArg List.length kinds)
  simp only [List.map_cons, List.map_nil, List.cons.injEq, and_true] at kinds replies
  obtain ⟨lastId, affected, reply, change⟩ := tells.lastChange [made] filled [read] rfl
    (by simp [kinds]) (by simp [kinds])
  obtain ⟨header, cells, shown, rows⟩ := tells.lastRows [made, filled] read [] rfl
    (by simp [kinds]) (by simp)
  obtain ⟨rfl, rfl⟩ := Reply.changed.inj (reply.symm.trans replies.2.1)
  obtain ⟨rfl, rfl⟩ := Reply.rows.inj (shown.symm.trans replies.2.2)
  exact ⟨change, rows⟩

end Registry
end SqlEngine
