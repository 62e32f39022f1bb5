import SqlEngine.Proofs.Faults
import SqlEngine.Proofs.Occasions
import SqlEngine.Shell

/-!
# A shell with an open transaction

While a transaction is open the engine is given the lines that are taken for queries, and no others.
A line is taken for a query by its last statement alone: what stands before that runs all the same.
-/

namespace SqlEngine

namespace Database

theorem runAll_of_select {now : Timestamp} {database : Database} {trees : List Tree}
    (reads : ∀ tree ∈ trees, tree.token = .select) :
    (database.runAll now trees).database = database := by
  induction trees with
  | nil => rfl
  | cons tree trees induction =>
      obtain ⟨select, others⟩ := List.forall_mem_cons.mp reads
      cases selected : database.runSelect now tree with
      | error error =>
          have executed : database.execute now tree = .error error := by
            simp [execute, select, selected, bind, Except.bind]
          simp [runAll, executed]
      | ok reply =>
          have executed : database.execute now tree = .ok (reply, database) := by
            simp [execute, select, selected, bind, Except.bind, pure, Except.pure]
          simp [runAll, executed, Outcome.after, induction others]

end Database

/-- Whether all statements of a script are queries. -/
def Script.ReadsOnly (text : String) : Prop :=
  ∀ trees, Script.parse text = .ok trees → ∀ tree ∈ trees, tree.token = .select

instance (text : String) : Decidable (Script.ReadsOnly text) :=
  match parsed : Script.parse text with
  | .ok trees =>
    decidable_of_iff (∀ tree ∈ trees, tree.token = .select) (by simp [Script.ReadsOnly, parsed])
  | .error _ => isTrue (by simp [Script.ReadsOnly, parsed])

theorem Script.ReadsOnly.database_eq {text : String} (reads : ReadsOnly text) (now : Timestamp)
    (database : Database) : (database.run now text).database = database := by
  unfold Database.run
  cases parsed : Script.parse text with
  | error error => rfl
  | ok trees => exact Database.runAll_of_select (reads trees parsed)

namespace Shell

/-- The engine of a shell runs and has a database, and its session has a limit or none. -/
def State.Holds (state : State) (limit : Option Duration) (database : Database) : Prop :=
  ∃ server, state.registry.server? state.session = some server ∧ server.engine.running = true ∧
    server.timeout = limit ∧ server.engine.database = database

/-- A shell in a process of its own, with its session on a connection string. -/
def start? (settings : Settings) (text : String) : Option State :=
  match ({ settings } : Registry).openSession text with
  | (.ok session, registry) => some { registry, session }
  | (.error _, _) => none

theorem isSome_start? : (start? {} "").isSome := by
  decide +kernel

theorem holds_of_start? {settings : Settings} {text : String} {state : State}
    (started : start? settings text = some state) :
    ∃ fields, ConnectionString.parse text = .ok fields ∧
      state.Holds (fields.timeout <|> settings.timeout) .empty ∧ state.transaction = none := by
  unfold start? Registry.openSession Registry.connector at started
  cases parsed : ConnectionString.parse text with
  | error error => simp [parsed] at started
  | ok fields =>
      simp [parsed, Registry.running?, Registry.start, Registry.forget, Registry.connect,
        Server.openSession, Server.start, Engine.start, Engine.checkRunning, Registry.modify,
        Except.map] at started
      subst started
      exact ⟨fields, rfl, ⟨_, rfl, rfl, by cases fields.timeout <;> rfl, rfl⟩, rfl⟩

/-- A shell on the empty connection string has no limit. -/
theorem holds_of_start {state : State} (started : start? {} "" = some state) :
    state.Holds none .empty ∧ state.transaction = none := by
  obtain ⟨fields, parsed, holds, idle⟩ := holds_of_start? started
  have unlimited : (ConnectionString.parse "").toOption.map (·.timeout) = some none := by
    decide +kernel
  rw [parsed] at unlimited
  have none : fields.timeout = none := Option.some.inj unlimited
  rw [none] at holds
  exact ⟨holds, idle⟩

/-- What a shell answers to lines given one after the other, and the state behind them.  A program
ends at a line that breaks its reading; the state is left as it is there. -/
def feed (state : State) : List (Occasion × String) → List (Except Error String) × State
  | [] => ([], state)
  | (occasion, line) :: lines =>
    let (answer, next) := run occasion state line
    let (answers, final) := feed next lines
    (answer :: answers, final)

/-- The number of rows of a table of the engine, if there is one of that name. -/
def State.rowCount? (state : State) (name : String) : Option Nat :=
  (state.registry.server? state.session).bind fun server =>
    (server.engine.database.find? name).map (·.rows.length)

/-- A line that is not cut short can be read without breaking. -/
theorem breaks_of_classify {line : String} (whole : classify line ≠ .crash) :
    Script.breaks line = false := by
  unfold classify at whole
  unfold Script.breaks
  cases parsed : Script.parse line with
  | ok trees => rfl
  | error error =>
      rw [parsed] at whole
      simpa using whole

variable {limit : Option Duration}

namespace State.Holds

variable {state : State} {database : Database}

theorem rowCount?_eq (holds : state.Holds limit database) (name : String) :
    state.rowCount? name = (database.find? name).map (·.rows.length) := by
  obtain ⟨server, found, -, -, rfl⟩ := holds
  rw [rowCount?, found, Option.bind_some]

/-- A request of the session that comes to the engine is run on the database. -/
theorem request (holds : state.Holds limit database) (occasion : Occasion) {request : Request}
    (whole : (request.run occasion.now database).crashes = false) :
    ∃ registry, state.registry.request occasion state.session request =
        (occasion.tell limit (request.run occasion.now database).messages, registry) ∧
      ∀ transaction, State.Holds ⟨registry, state.session, transaction⟩ limit
        (if occasion.Comes limit then (request.run occasion.now database).database
          else database) := by
  obtain ⟨server, found, running, rfl, rfl⟩ := holds
  refine ⟨_, Registry.request_of_running found running occasion request, fun transaction => ?_⟩
  split
  · have there : state.registry.servers[state.session.server]? = some server := found
    exact ⟨{ server with engine := server.engine.behind (request.run occasion.now _) },
      by simp [Registry.server?, Registry.modify, there],
      by simp [Engine.behind, running, whole], rfl, rfl⟩
  · exact ⟨server, found, running, rfl, rfl⟩

/-- A script that does not break its reading, on its way to the engine and back. -/
theorem script (holds : state.Holds limit database) (occasion : Occasion) {line : String}
    (whole : Script.breaks line = false) :
    ∃ registry, state.registry.request occasion state.session (.script line) =
        (occasion.tell limit (database.run occasion.now line).messages, registry) ∧
      ∀ transaction, State.Holds ⟨registry, state.session, transaction⟩ limit
        (if occasion.Comes limit then (database.run occasion.now line).database else database) :=
  @request _ _ _ holds occasion (.script line) ((database.crashes_run occasion.now line).trans whole)

theorem query (holds : state.Holds limit database) (occasion : Occasion) {line : String}
    (whole : Script.breaks line = false) :
    (Shell.query occasion state line).1 =
        ((occasion.tell limit (database.run occasion.now line).messages).bind
          RowSet.ofMessages).map render ∧
      (Shell.query occasion state line).2.Holds limit
        (if occasion.Comes limit then (database.run occasion.now line).database else database) ∧
      (Shell.query occasion state line).2.transaction = state.transaction := by
  obtain ⟨registry, answered, holds'⟩ := holds.script occasion whole
  simp only [Shell.query, Registry.query, answered]
  exact ⟨trivial, holds' _, trivial⟩

theorem exec (holds : state.Holds limit database) (occasion : Occasion) {line : String}
    (whole : Script.breaks line = false) :
    (Shell.exec occasion state line).1 =
        ((occasion.tell limit (database.run occasion.now line).messages).bind
          ChangeResult.ofMessages).map changeText ∧
      (Shell.exec occasion state line).2.Holds limit
        (if occasion.Comes limit then (database.run occasion.now line).database else database) ∧
      (Shell.exec occasion state line).2.transaction = state.transaction := by
  obtain ⟨registry, answered, holds'⟩ := holds.script occasion whole
  simp only [Shell.exec, Registry.exec, answered]
  exact ⟨trivial, holds' _, trivial⟩

/-- A change of the transaction alone leaves the engine as it is. -/
theorem withTransaction (holds : state.Holds limit database) (transaction : Option Transaction) :
    State.Holds { state with transaction } limit database :=
  holds

theorem queue (holds : state.Holds limit database) (transaction : Transaction) (line : String) :
    (Shell.queue state transaction line).2.Holds limit database := by
  unfold Shell.queue
  split <;> exact holds

/-- A transaction with scripts is applied as a batch. -/
theorem commit (holds : state.Holds limit database) (occasion : Occasion)
    {transaction : Transaction} (some : transaction.pending ≠ [])
    (whole : ∀ text ∈ transaction.pending, Script.breaks text = false) :
    (Shell.commit occasion state transaction).1 =
        ((occasion.tell limit
          (database.runBatch occasion.now transaction.pending).messages).bind
          ChangeResult.ofMessages).map
          (fun result => s!"COMMIT ({result.affected} rows affected)") ∧
      (Shell.commit occasion state transaction).2.Holds limit
        (if occasion.Comes limit then
          (database.runBatch occasion.now transaction.pending).database else database) := by
  have calm : ((Request.batch transaction.pending).run occasion.now database).crashes = false :=
    (Database.crashes_runBatch ..).trans (Database.crashes_runEach whole)
  obtain ⟨registry, answered, holds'⟩ := holds.request occasion calm
  have applied : state.registry.commit occasion state.session transaction =
      ((occasion.tell limit (database.runBatch occasion.now transaction.pending).messages).bind
        ChangeResult.ofMessages, registry) := by
    simp [Registry.commit, some, answered, Request.run]
  simp only [Shell.commit, applied]
  exact ⟨trivial, holds' _⟩

end State.Holds

/-- A transaction without scripts does not come to the engine. -/
theorem commit_of_empty (occasion : Occasion) (state : State) :
    commit occasion state {} =
      (.ok "COMMIT (0 rows affected)", { state with transaction := none }) := by
  rfl

theorem isSome_queue {state : State} (isOpen : state.transaction.isSome) (transaction : Transaction)
    (line : String) : (queue state transaction line).2.transaction.isSome := by
  unfold queue
  split
  · exact isOpen
  · rfl

/-- The database behind those of several lines that are taken for queries and come to the engine. -/
def queried (limit : Option Duration) (database : Database) (lines : List (Occasion × String)) :
    Database :=
  lines.foldl
    (fun database (occasion, line) =>
      if classify line = .query ∧ occasion.Comes limit then
        (database.run occasion.now line).database
      else database)
    database

theorem queried_of_readsOnly {database : Database} {lines : List (Occasion × String)}
    (reads : ∀ line ∈ lines, classify line.2 = .query → Script.ReadsOnly line.2) :
    queried limit database lines = database := by
  induction lines generalizing database with
  | nil => rfl
  | cons first lines induction =>
      obtain ⟨read, others⟩ := List.forall_mem_cons.mp reads
      have same : (if classify first.2 = .query ∧ first.1.Comes limit then
          (database.run first.1.now first.2).database else database) = database := by
        split
        · rename_i asks
          exact (read asks.1).database_eq first.1.now database
        · rfl
      change queried limit (if classify first.2 = .query ∧ _ then _ else database) lines = database
      rw [same, induction others]

variable {state : State} {database : Database}

theorem run_opening {line : String} (action : classify line = .opening)
    (idle : state.transaction = none) (occasion : Occasion) :
    run occasion state line = (.ok "BEGIN", { state with transaction := some {} }) := by
  simp only [run, action, idle]

/-- A line that does not end an open transaction leaves it open, and comes to the engine only if it
is taken for a query. -/
theorem run_of_open (holds : state.Holds limit database) (isOpen : state.transaction.isSome)
    {line : String} (inside : classify line ≠ .commit ∧ classify line ≠ .rollback)
    (occasion : Occasion) :
    (run occasion state line).2.Holds limit
        (if classify line = .query ∧ occasion.Comes limit then
          (database.run occasion.now line).database else database) ∧
      (run occasion state line).2.transaction.isSome := by
  obtain ⟨transaction, held⟩ := Option.isSome_iff_exists.mp isOpen
  cases action : classify line with
  | opening => simp [run, action, held, holds]
  | commit => exact absurd action inside.1
  | rollback => exact absurd action inside.2
  | query =>
      have whole : Script.breaks line = false := breaks_of_classify (by simp [action])
      obtain ⟨-, holds', kept⟩ := holds.query occasion whole
      simp only [run, action, true_and]
      exact ⟨holds', kept ▸ isOpen⟩
  | exec =>
      simp only [run, action, held]
      exact ⟨holds.queue transaction line, isSome_queue isOpen transaction line⟩
  | crash => simp [run, action, held, holds]

theorem feed_of_open (holds : state.Holds limit database) (isOpen : state.transaction.isSome)
    {lines : List (Occasion × String)}
    (inside : ∀ line ∈ lines, classify line.2 ≠ .commit ∧ classify line.2 ≠ .rollback) :
    (feed state lines).2.Holds limit (queried limit database lines) ∧
      (feed state lines).2.transaction.isSome := by
  induction lines generalizing state database with
  | nil => exact ⟨holds, isOpen⟩
  | cons first lines induction =>
      obtain ⟨here, others⟩ := List.forall_mem_cons.mp inside
      obtain ⟨holds', isOpen'⟩ := run_of_open holds isOpen here first.1
      exact induction holds' isOpen' others

/-- While a transaction is open, the engine's database is that behind the lines that are taken for
queries.  So it stays as it was if these do nothing but read, and a line that gives up the
transaction leaves it so. -/
theorem only_queries_before_commit (holds : state.Holds limit database)
    (isOpen : state.transaction.isSome) (lines : List (Occasion × String))
    (inside : ∀ line ∈ lines, classify line.2 ≠ .commit ∧ classify line.2 ≠ .rollback) :
    let behind := (feed state lines).2
    behind.Holds limit (queried limit database lines) ∧ behind.transaction.isSome ∧
      ((∀ line ∈ lines, classify line.2 = .query → Script.ReadsOnly line.2) →
        behind.Holds limit database) ∧
      ∀ (occasion : Occasion) (line : String), classify line = .rollback →
        (run occasion behind line).1 = .ok "ROLLBACK" ∧
        (run occasion behind line).2.Holds limit (queried limit database lines) ∧
        (run occasion behind line).2.transaction = none := by
  obtain ⟨holds', isOpen'⟩ := feed_of_open holds isOpen inside
  refine ⟨holds', isOpen', fun reads => ?_, fun occasion line action => ?_⟩
  · rwa [queried_of_readsOnly reads] at holds'
  obtain ⟨transaction, held⟩ := Option.isSome_iff_exists.mp isOpen'
  simp only [run, action, held]
  exact ⟨trivial, holds'.withTransaction none, trivial⟩

/-- A table that is made and not committed is not there. -/
theorem nothing_before_commit_of_two_lines :
    let occasion : Occasion := { now := Date.atMidnight ⟨1970, 1, 1, by decide⟩ }
    let start := (start? {} "").get isSome_start?
    let before := (feed start [(occasion, "BEGIN")]).2
    (feed before
      [(occasion, "CREATE TABLE t (a INT)"), (occasion, "SELECT * FROM t")]).2.Holds none .empty := by
  intro occasion start before
  have started : start? {} "" = some start := (Option.some_get _).symm
  obtain ⟨begun, idle⟩ := holds_of_start started
  have opening : classify "BEGIN" = .opening := by decide +kernel
  have opened : before = { start with transaction := some {} } := by
    change (run occasion start "BEGIN").2 = _
    rw [run_opening opening idle]
  have holds : before.Holds none .empty := opened ▸ begun.withTransaction (some {})
  have isOpen : before.transaction.isSome := by rw [opened]; rfl
  exact (only_queries_before_commit holds isOpen _ (by decide +kernel)).2.2.1 (by decide +kernel)

/-- A line that writes and then reads changes the database before the transaction is applied. -/
theorem query_line_writes_before_commit :
    let occasion : Occasion := { now := Date.atMidnight ⟨1970, 1, 1, by decide⟩ }
    let start := (start? {} "").get isSome_start?
    let before := (feed start [(occasion, "CREATE TABLE t (a INT)"),
      (occasion, "CREATE TABLE u (a INT)"), (occasion, "BEGIN")]).2
    let line := "INSERT INTO t VALUES (1); SELECT * FROM u"
    before.transaction.isSome ∧ classify line ≠ .commit ∧ classify line ≠ .rollback ∧
      ∃ limit database, before.Holds limit database ∧
        ¬ (feed before [(occasion, line)]).2.Holds limit database := by
  intro occasion start before line
  have none_before : before.rowCount? "t" = some 0 := by decide +kernel
  have one_behind : (feed before [(occasion, line)]).2.rowCount? "t" = some 1 := by decide +kernel
  have runs : (before.registry.server? before.session).any (·.engine.running) = true := by
    decide +kernel
  obtain ⟨server, found⟩ : ∃ server, before.registry.server? before.session = some server :=
    Option.isSome_iff_exists.mp (by decide +kernel)
  rw [found, Option.any_some] at runs
  have holds : before.Holds server.timeout server.engine.database := ⟨server, found, runs, rfl, rfl⟩
  refine ⟨by decide +kernel, by decide +kernel, by decide +kernel, _, _, holds, fun same => ?_⟩
  rw [holds.rowCount?_eq] at none_before
  rw [same.rowCount?_eq, none_before] at one_behind
  contradiction

end Shell
end SqlEngine
