import SqlEngine.Proofs.Desk
import SqlEngine.Proofs.Faults
import SqlEngine.Proofs.Unbroken

/-!
# What a session is told

A statement that succeeds is answered by one result, or by a header, rows of its width and an end.
A script answers with those of its statements that come before the first one that fails, and then
with the error of that one; if some of it cannot be read, the error is all that it answers.  Where the
reading breaks, nothing is run and nothing is answered.
-/

namespace SqlEngine

/-- Whether messages are one complete answer. -/
inductive Framed : List Message → Prop where
  /-- The outcome of a change. -/
  | result (lastId affected : Int) : Framed [.result lastId affected]
  /-- A header, rows with a cell under each of its names, and an end. -/
  | rows (header : List String) (cells : List (List (Option String)))
      (wide : ∀ row ∈ cells, row.length = header.length) :
      Framed (.header header :: cells.map .row ++ [.rowEnd])

theorem Framed.ne_nil {messages : List Message} (framed : Framed messages) : messages ≠ [] := by
  cases framed <;> simp

theorem Framed.failure_notMem {messages : List Message} (framed : Framed messages) (text : String) :
    .failure text ∉ messages := by
  cases framed <;> simp

namespace Database

variable {now : Timestamp} {database after : Database} {tree : Tree} {reply : Reply}

/-- The answer to a query has rows as wide as its header, whatever it leaves out. -/
theorem framed_of_runSelect (done : database.runSelect now tree = .ok reply) :
    Framed reply.messages := by
  simp only [runSelect, Checked.bind_eq_ok, Checked.pure_eq_ok] at done
  obtain ⟨_, -, _, -, relation, -, _, -, projection, -, _, -, _, -, sorted, -, cells, shown,
    offset, -, limit, -, rfl⟩ := done
  refine Framed.rows projection.header _ fun row member => ?_
  have kept : row ∈ cells.drop (offset.getD 0) := by
    cases limit with
    | none => exact member
    | some count => exact List.mem_of_mem_take member
  exact Projection.length_of_mem_cells shown (List.mem_of_mem_drop kept)

/-- A statement that succeeds is answered completely. -/
theorem framed_of_execute (done : database.execute now tree = .ok (reply, after)) :
    Framed reply.messages := by
  unfold Database.execute at done
  split at done
  · rcases runCreate_eq_ok done with ⟨rfl, -⟩ | ⟨target, -, created⟩
    · exact .result 0 1
    · rcases createTable_eq_ok created with ⟨rfl, -⟩ | ⟨_, _, -, -, -, -, rfl, -⟩
      · exact .result 0 0
      · exact .result 0 1
  · obtain ⟨rfl, -⟩ := runDrop_eq_ok done
    exact .result 0 1
  · obtain ⟨_, relation, -, rfl, -⟩ := runTruncate_eq_ok done
    exact .result 0 relation.rows.length
  · obtain ⟨_, _, _, _, rows, numbering, -, -, -, -, -, -, -, rfl, -⟩ := runInsert_eq_ok done
    exact .result numbering.lastId.toInt rows.length
  · obtain ⟨_, _, _, _, _, marked, _, -, -, -, -, -, rfl, -⟩ := runUpdate_eq_ok done
    exact .result 0 (marked.countP (·.2))
  · obtain ⟨_, _, _, marked, -, -, -, rfl, -⟩ := runDelete_eq_ok done
    exact .result 0 (marked.countP (·.2))
  · simp only [Checked.bind_eq_ok, Checked.pure_eq_ok, Prod.mk.injEq] at done
    obtain ⟨_, selected, rfl, -⟩ := done
    exact framed_of_runSelect selected
  all_goals contradiction

end Database

namespace Work

variable {now : Timestamp} {desk : Desk}

/-- Runs a script, all of which is read first. -/
def runScript (now : Timestamp) (text : String) : Work Unit := do
  let trees ← check (Script.parse text)
  trees.forM (perform now)

/-- Runs a script, and writes the error if it fails, unless that cuts the run short. -/
def script (now : Timestamp) (text : String) : Work Unit := fun desk =>
  match runScript now text desk with
  | .ok () after => .ok () after
  | .error error after =>
    if error.isCrash then .error error after else write error.toMessage after

/-- Whether work comes to what several statements came to: their replies are written and the
database is the one behind them, also where one has failed. -/
def ComesToAll (work : Work Unit) (desk : Desk) (outcome : Outcome) : Prop :=
  work desk =
    match outcome.failure with
    | none => .ok () ⟨outcome.database, desk.written ++ outcome.replies.flatMap Reply.messages⟩
    | some error =>
      .error error ⟨outcome.database, desk.written ++ outcome.replies.flatMap Reply.messages⟩

theorem comesTo_runAll (sound : desk.database.Sound) (trees : List Tree) :
    ComesToAll (trees.forM (perform now)) desk (desk.database.runAll now trees) := by
  induction trees generalizing desk with
  | nil =>
      change EStateM.Result.ok () desk = .ok () ⟨desk.database, desk.written ++ []⟩
      rw [List.append_nil]
  | cons tree trees induction =>
      have first : ComesTo (perform now tree) desk (desk.database.execute now tree) :=
        comesTo_execute sound now tree
      unfold ComesTo at first
      change EStateM.bind (perform now tree) (fun _ => trees.forM (perform now)) desk = _
      unfold EStateM.bind
      rw [first, Database.runAll]
      cases executed : desk.database.execute now tree with
      | error error => simp
      | ok result =>
          have others : ComesToAll (trees.forM (perform now))
              ⟨result.2, desk.written ++ result.1.messages⟩ (result.2.runAll now trees) :=
            induction (sound.execute executed)
          unfold ComesToAll at others
          simp only [others, Outcome.after, List.flatMap_append, List.flatMap_singleton,
            List.append_assoc]

theorem comesTo_run (sound : desk.database.Sound) (text : String) :
    ComesToAll (runScript now text) desk (desk.database.run now text) := by
  unfold runScript Database.run
  cases Script.parse text with
  | error error =>
      change EStateM.Result.error error desk = .error error ⟨desk.database, desk.written ++ []⟩
      rw [List.append_nil]
  | ok trees => exact comesTo_runAll sound trees

/-- What work ends with that leaves a desk, and is cut short or not. -/
def ended (cut : Bool) (desk : Desk) : EStateM.Result Error Desk Unit :=
  if cut then .error .broken desk else .ok () desk

/-- What work ends with that tells of an outcome: the messages are written and the database is the one
behind it. -/
def endedBy (outcome : Outcome) (desk : Desk) : EStateM.Result Error Desk Unit :=
  ended outcome.crashes ⟨outcome.database, desk.written ++ outcome.messages⟩

theorem endedBy_of_crash {outcome : Outcome} (cut : outcome.crashes = true) :
    endedBy outcome desk =
      .error .broken ⟨outcome.database, desk.written ++ outcome.replies.flatMap Reply.messages⟩ := by
  simp [endedBy, ended, cut, Outcome.messages, Outcome.reported_of_crash cut]

theorem endedBy_of_calm {outcome : Outcome} (calm : outcome.crashes = false) :
    endedBy outcome desk = .ok () ⟨outcome.database, desk.written ++ outcome.messages⟩ := by
  simp [endedBy, ended, calm]

/-- An error is told where nothing was replied. -/
theorem endedBy_of_error {error : Error} (told : error.isCrash = false) (database : Database) :
    endedBy ⟨[], some error, database⟩ desk =
      .ok () ⟨database, desk.written ++ [error.toMessage]⟩ := by
  have calm : (⟨[], some error, database⟩ : Outcome).crashes = false := told
  rw [endedBy_of_calm calm, Outcome.messages_of_reported (Outcome.reported_of_failure rfl told)]
  rfl

/-- Carried out on a conforming database, a script comes to what its function gives: the replies are
written, then the error if there is one, and the database is the one behind them. -/
theorem script_eq (sound : desk.database.Sound) (text : String) :
    script now text desk = endedBy (desk.database.run now text) desk := by
  have ran : ComesToAll (runScript now text) desk (desk.database.run now text) :=
    comesTo_run sound text
  unfold ComesToAll at ran
  unfold script
  rw [ran]
  cases failed : (desk.database.run now text).failure with
  | none =>
      rw [endedBy_of_calm (Outcome.crashes_of_success failed),
        Outcome.messages_of_unreported (Outcome.reported_of_success failed), List.append_nil]
  | some error =>
      dsimp only
      cases cut : error.isCrash with
      | true =>
          obtain rfl := Error.isCrash_iff.mp cut
          rw [endedBy_of_crash (Outcome.crashes_iff.mpr failed)]
          rfl
      | false =>
          have calm : (desk.database.run now text).crashes = false := by
            simp [Outcome.crashes, failed, cut]
          rw [endedBy_of_calm calm,
            Outcome.messages_of_reported (Outcome.reported_of_failure failed cut),
            ← List.append_assoc]
          rfl

/-! ## Complete answers -/

/-- Whether work is all or nothing: it writes one complete answer, or it stops with an error that a
session can be told about and the desk is as it was. -/
def Atomic (work : Work Unit) (desk : Desk) : Prop :=
  (∃ answer after, work desk = .ok () ⟨after, desk.written ++ answer⟩ ∧ Framed answer) ∨
    ∃ error, work desk = .error error desk ∧ error.IsTold

theorem atomic_perform (sound : desk.database.Sound) (now : Timestamp) (tree : Tree) :
    Atomic (perform now tree) desk := by
  have done : ComesTo (perform now tree) desk (desk.database.execute now tree) :=
    comesTo_execute sound now tree
  unfold ComesTo at done
  have orderly := sound.orderly_execute now tree
  cases executed : desk.database.execute now tree with
  | ok result =>
      rw [executed] at done
      exact .inl ⟨result.1.messages, result.2, done, Database.framed_of_execute executed⟩
  | error error =>
      rw [executed] at done orderly
      exact .inr ⟨error, done, Orderly.error_iff.mp orderly⟩

/-- Whether statements succeed one after the other, with these answers and from one database to
another, whatever was written before. -/
inductive Runs (now : Timestamp) :
    Database → List Tree → List (List Message) → Database → Prop where
  /-- No statement changes nothing. -/
  | nil (database : Database) : Runs now database [] [] database
  /-- The other statements run behind the first. -/
  | cons {database middle after : Database} {tree : Tree} {trees : List Tree}
      {answer : List Message} {answers : List (List Message)}
      (first : ∀ written, perform now tree ⟨database, written⟩ = .ok () ⟨middle, written ++ answer⟩)
      (framed : Framed answer) (others : Runs now middle trees answers after) :
      Runs now database (tree :: trees) (answer :: answers) after

/-- Whether a script may answer with given messages and leave a given database behind. -/
inductive Answers (now : Timestamp) (database : Database) (text : String) :
    List Message → Database → Prop where
  /-- There is no statement in the script. -/
  | empty (none : Script.statements text = []) :
      Answers now database text [(Error.parse .noStatement).toMessage] database
  /-- A statement cannot be read, and so none of them runs. -/
  | unreadable {front back : List (List Char)} {piece : List Char} {error : Error}
      (split : Script.statements text = front ++ piece :: back)
      (readable : ∀ piece ∈ front, ∃ tree, Script.ofTrimmed piece = .ok tree)
      (fault : Script.ofTrimmed piece = .error error) (told : error.isCrash = false) :
      Answers now database text [error.toMessage] database
  /-- All statements are read and succeed. -/
  | finished {trees : List Tree} {answers : List (List Message)} {after : Database}
      (filled : Script.statements text ≠ [])
      (read : List.Forall₂ (fun piece tree => Script.ofTrimmed piece = .ok tree)
        (Script.statements text) trees)
      (runs : Runs now database trees answers after) :
      Answers now database text answers.flatten after
  /-- All statements are read, and one fails behind others that succeed. -/
  | stopped {ran rest : List Tree} {tree : Tree} {answers : List (List Message)} {after : Database}
      {error : Error}
      (read : List.Forall₂ (fun piece tree => Script.ofTrimmed piece = .ok tree)
        (Script.statements text) (ran ++ tree :: rest))
      (runs : Runs now database ran answers after)
      (fails : ∀ written, perform now tree ⟨after, written⟩ = .error error ⟨after, written⟩) :
      Answers now database text (answers.flatten ++ [error.toMessage]) after

/-- Statements that are run in order either all succeed, or stop at the first that fails. -/
theorem runs_of_runAll {database : Database} (sound : database.Sound) (now : Timestamp)
    (trees : List Tree) :
    let outcome := database.runAll now trees
    (∃ answers, Runs now database trees answers outcome.database ∧
      outcome.messages = answers.flatten) ∨
    ∃ ran tree rest answers error, trees = ran ++ tree :: rest ∧
      Runs now database ran answers outcome.database ∧
      (∀ written, perform now tree ⟨outcome.database, written⟩ =
        .error error ⟨outcome.database, written⟩) ∧
      outcome.messages = answers.flatten ++ [error.toMessage] := by
  induction trees generalizing database with
  | nil => exact .inl ⟨[], .nil database, rfl⟩
  | cons tree trees induction =>
      have done (written : List Message) : ComesTo (perform now tree) ⟨database, written⟩
          (database.execute now tree) := comesTo_execute sound now tree
      unfold ComesTo at done
      have orderly := sound.orderly_execute now tree
      cases executed : database.execute now tree with
      | error error =>
          rw [executed] at done orderly
          have told : error.isCrash = false := (Orderly.error_iff.mp orderly).isCrash_eq
          refine .inr ⟨[], tree, trees, [], error, rfl, ?_, ?_, ?_⟩
          all_goals simp only [Database.runAll, executed]
          · exact .nil database
          · exact done
          · exact Outcome.messages_of_reported (Outcome.reported_of_failure rfl told)
      | ok result =>
          rw [executed] at done
          have framed := Database.framed_of_execute executed
          have messages : (database.runAll now (tree :: trees)).messages =
              result.1.messages ++ (result.2.runAll now trees).messages := by
            simp [Database.runAll, executed, Outcome.after, Outcome.messages, Outcome.reported]
          have last : (database.runAll now (tree :: trees)).database =
              (result.2.runAll now trees).database := by
            simp [Database.runAll, executed, Outcome.after]
          simp only [messages, last]
          rcases induction (sound.execute executed) with
            ⟨answers, runs, told⟩ | ⟨ran, failing, rest, answers, error, rfl, runs, fails, told⟩
          · refine .inl ⟨result.1.messages :: answers, .cons done framed runs, ?_⟩
            rw [told, List.flatten_cons]
          · refine .inr ⟨tree :: ran, failing, rest, result.1.messages :: answers, error, rfl,
              .cons done framed runs, fails, ?_⟩
            rw [told, List.flatten_cons, List.append_assoc]

theorem answers_of_run {database : Database} (sound : database.Sound) {text : String}
    (whole : Script.breaks text = false) :
    Answers now database text (database.run now text).messages
      (database.run now text).database := by
  unfold Database.run
  cases parsed : Script.parse text with
  | error error =>
      have told : error.isCrash = false := by simpa [Script.breaks, parsed] using whole
      have message : (⟨[], some error, database⟩ : Outcome).messages = [error.toMessage] :=
        Outcome.messages_of_reported (Outcome.reported_of_failure rfl told)
      rw [message]
      unfold Script.parse at parsed
      split at parsed
      · rename_i none
        obtain rfl := Except.error.inj parsed
        exact .empty none
      · rename_i pieces
        obtain ⟨front, piece, back, split, readable, fault⟩ :=
          Checked.exists_of_mapM_eq_error parsed
        exact .unreadable (pieces.trans split) readable fault told
  | ok trees =>
      obtain ⟨filled, read⟩ : Script.statements text ≠ [] ∧
          List.Forall₂ (fun piece tree => Script.ofTrimmed piece = .ok tree)
            (Script.statements text) trees := by
        unfold Script.parse at parsed
        split at parsed
        · contradiction
        · rename_i pieces
          rw [pieces]
          exact ⟨by simp, Checked.mapM_eq_ok.mp parsed⟩
      rcases runs_of_runAll sound now trees with
        ⟨answers, runs, told⟩ | ⟨ran, tree, rest, answers, error, rfl, runs, fails, told⟩
      · rw [told]
        exact .finished filled read runs
      · rw [told]
        exact .stopped read runs fails

theorem Runs.framed {database after : Database} {trees : List Tree} {answers : List (List Message)}
    (runs : Runs now database trees answers after) : ∀ answer ∈ answers, Framed answer := by
  induction runs with
  | nil => simp
  | cons _ framed _ induction => exact List.forall_mem_cons.mpr ⟨framed, induction⟩

theorem Answers.ne_nil {database after : Database} {text : String} {messages : List Message}
    (answers : Answers now database text messages after) : messages ≠ [] := by
  cases answers with
  | empty => simp
  | unreadable => simp
  | stopped => simp
  | finished filled read runs =>
      cases runs with
      | nil => exact absurd (List.forall₂_nil_right_iff.mp read) filled
      | cons _ framed _ => simp [framed.ne_nil]

/-- Only the last message of an answer can be an error. -/
theorem Answers.failure_notMem_dropLast {database after : Database} {text : String}
    {messages : List Message} (answers : Answers now database text messages after)
    (words : String) : .failure words ∉ messages.dropLast := by
  have clear {answers : List (List Message)} {trees : List Tree} {last : Database}
      (runs : Runs now database trees answers last) : .failure words ∉ answers.flatten := by
    intro member
    obtain ⟨answer, listed, inside⟩ := List.mem_flatten.mp member
    exact (runs.framed answer listed).failure_notMem words inside
  cases answers with
  | empty => simp
  | unreadable => simp
  | stopped _ runs => simpa using clear runs
  | finished _ _ runs => exact fun member => clear runs ((List.dropLast_sublist _).subset member)

/-- A script that breaks its reading is not run, and nothing is written. -/
theorem script_of_breaks {text : String} (breaks : Script.breaks text = true) :
    script now text desk = .error .broken desk := by
  have ran : runScript now text desk = .error .broken desk := by
    unfold runScript
    rw [Script.parse_of_breaks breaks]
    rfl
  simp [script, ran, Error.isCrash]

/-- Behind every history, each statement is all or nothing and comes to what its function gives.  Each
script that does not break its reading, such as any without a KELVIN SIGN, writes the complete answers
of the statements before the first that fails, and behind them at most one error; one that does writes
nothing and changes nothing. -/
theorem atomic_and_framed_after_calls (history : List (Timestamp × Call)) (now : Timestamp)
    (written : List Message) :
    let start := Database.empty.calls history
    (∀ tree, Atomic (perform now tree) ⟨start, written⟩ ∧
      ComesTo (perform now tree) ⟨start, written⟩ (start.execute now tree)) ∧
    ∀ text,
      let outcome := start.run now text
      (Clear text.toList → Script.breaks text = false) ∧
      (Script.breaks text = false →
        script now text ⟨start, written⟩ =
          .ok () ⟨outcome.database, written ++ outcome.messages⟩ ∧
        outcome.messages ≠ [] ∧ (∀ words, .failure words ∉ outcome.messages.dropLast) ∧
        Answers now start text outcome.messages outcome.database) ∧
      (Script.breaks text = true →
        script now text ⟨start, written⟩ = .error .broken ⟨start, written⟩) := by
  intro start
  have sound : start.Sound := Database.sound_empty.calls history
  refine ⟨fun tree => ⟨atomic_perform sound now tree, comesTo_execute sound now tree⟩, ?_⟩
  refine fun text => ⟨Script.breaks_of_clear, fun whole => ?_, script_of_breaks⟩
  have answers : Answers now start text (start.run now text).messages
      (start.run now text).database := answers_of_run sound whole
  have calm : (start.run now text).crashes = false := by rw [Database.crashes_run, whole]
  have desk : (⟨start, written⟩ : Desk).database.Sound := sound
  exact ⟨(script_eq desk text).trans (endedBy_of_calm calm), answers.ne_nil,
    answers.failure_notMem_dropLast, answers⟩

/-- A KELVIN SIGN as the last letter of a word breaks the reading. -/
theorem script_cut_short :
    script (Date.atMidnight ⟨1970, 1, 1, by decide⟩) "ROLLBAC\u212a" ⟨.empty, []⟩ =
      .error .broken ⟨.empty, []⟩ :=
  script_of_breaks (by decide +kernel)

end Work
end SqlEngine
