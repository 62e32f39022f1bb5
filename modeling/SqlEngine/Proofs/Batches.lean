import SqlEngine.Proofs.Scripts
import SqlEngine.Proofs.Timeless

/-!
# Batches are all or nothing

A batch is told like its scripts run one after the other: if none of them fails, it ends in the
same database and answers with one result, which adds up theirs; and if one does, it leaves the
database as it was and answers with the first error.  Where the first that fails breaks its reading,
the batch is cut short as well: it answers nothing, and leaves what was done by then.
-/

namespace SqlEngine

namespace Message

/-- The words of an error. -/
def failure? : Message → Option String
  | failure text => some text
  | _ => none

/-- The last number given to a row by a change. -/
def lastId? : Message → Option Int
  | result lastId _ => some lastId
  | _ => none

/-- The number of rows that a change concerns. -/
def affected? : Message → Option Int
  | result _ affected => some affected
  | _ => none

/-- The first error among messages. -/
def firstFailure (messages : List Message) : Option String :=
  (messages.filterMap failure?).head?

/-- The last number that is not zero among the results of messages, or zero. -/
def lastNonZeroId (messages : List Message) : Int :=
  ((messages.filterMap lastId?).filter (· ≠ 0)).getLast?.getD 0

/-- The sum of the numbers of rows of all results among messages. -/
def totalAffected (messages : List Message) : Int :=
  (messages.filterMap affected?).foldr (· + ·) 0

end Message

namespace Reply

/-- A part of the results among messages, if no other message of an answer has such a part. -/
private theorem filterMap_messages {α : Type} {part : Message → Option α}
    (header : ∀ names, part (.header names) = none) (row : ∀ cells, part (.row cells) = none)
    (rowEnd : part .rowEnd = none) (replies : List Reply) :
    (replies.flatMap messages).filterMap part =
      replies.filterMap fun reply =>
        match reply with
        | changed lastId affected => part (.result lastId affected)
        | rows _ _ => none := by
  induction replies with
  | nil => rfl
  | cons reply replies induction =>
      rw [List.flatMap_cons, List.filterMap_append, induction, List.filterMap_cons]
      cases reply with
      | changed lastId affected =>
          simp only [messages, List.filterMap_cons, List.filterMap_nil]
          cases part (.result lastId affected) <;> rfl
      | rows names cells =>
          have silent : (cells.map Message.row).filterMap part = [] := by
            simp [List.filterMap_map, row]
          simp [messages, List.filterMap_append, header, rowEnd, silent]

theorem firstFailure_append (replies : List Reply) (messages : List Message) :
    Message.firstFailure (replies.flatMap Reply.messages ++ messages) =
      Message.firstFailure messages := by
  have silent : (replies.flatMap Reply.messages).filterMap Message.failure? = [] := by
    rw [filterMap_messages (fun _ => rfl) (fun _ => rfl) rfl, List.filterMap_eq_nil_iff]
    intro reply _
    cases reply <;> rfl
  unfold Message.firstFailure
  rw [List.filterMap_append, silent, List.nil_append]

theorem lastId_eq (replies : List Reply) :
    lastId replies = Message.lastNonZeroId (replies.flatMap messages) := by
  have folded (start : Int) : replies.foldl
      (fun last reply =>
        match reply with
        | changed id _ => if id = 0 then last else id
        | rows _ _ => last) start =
      (((replies.flatMap messages).filterMap Message.lastId?).filter (· ≠ 0)).getLast?.getD
        start := by
    rw [filterMap_messages (fun _ => rfl) (fun _ => rfl) rfl]
    induction replies generalizing start with
    | nil => rfl
    | cons reply replies induction =>
        rw [List.foldl_cons, induction]
        cases reply with
        | rows names cells => rfl
        | changed id affected =>
            by_cases zero : id = 0
            · simp [Message.lastId?, zero]
            · simp [Message.lastId?, zero, List.getLast?_cons]
  exact folded 0

theorem affected_eq (replies : List Reply) :
    affected replies = Message.totalAffected (replies.flatMap messages) := by
  unfold Message.totalAffected
  rw [filterMap_messages (fun _ => rfl) (fun _ => rfl) rfl]
  induction replies with
  | nil => rfl
  | cons reply replies induction =>
      cases reply with
      | changed lastId affected =>
          change affected + Reply.affected replies = _
          rw [induction]
          rfl
      | rows names cells => exact induction

end Reply

namespace Work

variable {desk : Desk} {now : Timestamp}

/-- Runs scripts one after the other, each at its own time and whatever came of those before it. -/
def separately (scripts : List (Timestamp × String)) : Work Unit :=
  scripts.forM fun (now, text) => script now text

/-- What a batch keeps of the messages of its scripts. -/
structure Tally where
  /-- The last number given to a row, or zero. -/
  lastId : Int := 0
  /-- The number of rows concerned so far. -/
  affected : Int := 0

/-- The tally behind one more message. -/
def Tally.take (tally : Tally) : Message → Tally
  | .result lastId affected =>
    { lastId := if lastId ≠ 0 then lastId else tally.lastId, affected := tally.affected + affected }
  | _ => tally

/-- Runs scripts as one, on a desk of which the database is kept aside; if one fails, it is put back
in place, unless that cuts the run short. -/
def batch (now : Timestamp) (texts : List String) : Work Unit := fun desk =>
  match texts.forM (runScript now) { desk with written := [] } with
  | .ok () after =>
    let tally := after.written.foldl Tally.take {}
    write (.result tally.lastId tally.affected) { desk with database := after.database }
  | .error error after =>
    if error.isCrash then .error error { desk with database := after.database }
    else write error.toMessage desk

theorem foldl_take (messages : List Message) (tally : Tally) :
    messages.foldl Tally.take tally =
      { lastId :=
          ((messages.filterMap Message.lastId?).filter (· ≠ 0)).getLast?.getD tally.lastId
        affected := tally.affected + Message.totalAffected messages } := by
  induction messages generalizing tally with
  | nil => simp [Message.totalAffected]
  | cons message messages induction =>
      rw [List.foldl_cons, induction]
      cases message with
      | result lastId affected =>
          by_cases zero : lastId = 0
          · simp [Tally.take, Message.totalAffected, Message.lastId?, Message.affected?, zero,
              Int.add_assoc]
          · simp [Tally.take, Message.totalAffected, Message.lastId?, Message.affected?, zero,
              Int.add_assoc, List.getLast?_cons]
      | failure text => rfl
      | header names => rfl
      | row cells => rfl
      | rowEnd => rfl

theorem comesTo_runEach (sound : desk.database.Sound) (texts : List String) :
    ComesToAll (texts.forM (runScript now)) desk (desk.database.runEach now texts) := by
  induction texts generalizing desk with
  | nil =>
      change EStateM.Result.ok () desk = .ok () ⟨desk.database, desk.written ++ []⟩
      rw [List.append_nil]
  | cons text texts induction =>
      have first : ComesToAll (runScript now text) desk (desk.database.run now text) :=
        comesTo_run sound text
      unfold ComesToAll at first
      change EStateM.bind (runScript now text) (fun _ => texts.forM (runScript now)) desk = _
      unfold EStateM.bind
      simp only [first, Database.runEach]
      cases failed : (desk.database.run now text).failure with
      | some error => simp [failed]
      | none =>
          have others : ComesToAll (texts.forM (runScript now))
              ⟨(desk.database.run now text).database,
                desk.written ++ (desk.database.run now text).replies.flatMap Reply.messages⟩
              ((desk.database.run now text).database.runEach now texts) :=
            induction (sound.run text)
          unfold ComesToAll at others
          simp only [others, Outcome.after, List.flatMap_append, List.append_assoc]

/-- Carried out on a conforming database, a batch comes to what its function gives. -/
theorem batch_eq (sound : desk.database.Sound) (texts : List String) :
    batch now texts desk = endedBy (desk.database.runBatch now texts) desk := by
  have kept : ({ desk with written := [] } : Desk).database.Sound := sound
  have ran : ComesToAll (texts.forM (runScript now)) { desk with written := [] }
      (desk.database.runEach now texts) := comesTo_runEach kept texts
  unfold ComesToAll at ran
  simp only [batch, ran, Database.runBatch]
  cases (desk.database.runEach now texts).failure with
  | some error =>
      dsimp only
      cases cut : error.isCrash with
      | true =>
          obtain rfl := Error.isCrash_iff.mp cut
          rw [endedBy_of_crash rfl, if_pos rfl, if_pos rfl, List.flatMap_nil, List.append_nil]
      | false =>
          rw [if_neg (by simp), if_neg (by simp), endedBy_of_error cut]
          rfl
  | none =>
      simp only [List.nil_append, foldl_take, Int.zero_add]
      change EStateM.Result.ok () (⟨_, _⟩ : Desk) = .ok () ⟨_, _⟩
      rw [Reply.lastId_eq, Reply.affected_eq]
      rfl

/-- Whether scripts that were run one after the other, and were cut short or not, were told what came
of them up to the first that failed.  If none did, or if that one cut them short, this is all; and else
its error comes next. -/
def Agrees (cut : Bool) (final : Database) (told : List Message) (outcome : Outcome) : Prop :=
  match outcome.reported with
  | none => cut = outcome.crashes ∧ final = outcome.database ∧
      told = outcome.replies.flatMap Reply.messages
  | some error =>
    ∃ rest, told = outcome.replies.flatMap Reply.messages ++ error.toMessage :: rest

theorem separately_agrees (sound : desk.database.Sound) (now : Timestamp)
    {scripts : List (Timestamp × String)} (timeless : ∀ entry ∈ scripts, Script.Timeless entry.2) :
    ∃ cut final told, separately scripts desk = ended cut ⟨final, desk.written ++ told⟩ ∧
      Agrees cut final told (desk.database.runEach now (scripts.map (·.2))) ∧
      ((∀ entry ∈ scripts, Script.breaks entry.2 = false) → cut = false) := by
  induction scripts generalizing desk with
  | nil =>
      exact ⟨false, desk.database, [], by rw [List.append_nil]; rfl, ⟨rfl, rfl, rfl⟩, fun _ => rfl⟩
  | cons entry scripts induction =>
      obtain ⟨time, text⟩ := entry
      obtain ⟨first, others⟩ := List.forall_mem_cons.mp timeless
      let outcome := desk.database.run now text
      have run : script time text desk = endedBy outcome desk := by
        rw [script_eq sound, Database.run_timeless first time now]
      have next : separately ((time, text) :: scripts) desk =
          EStateM.bind (script time text) (fun _ => separately scripts) desk := rfl
      unfold EStateM.bind at next
      rw [run] at next
      simp only [List.map_cons, Database.runEach, List.forall_mem_cons]
      cases breaks : outcome.crashes with
      | true =>
          -- Nothing follows where a script cuts the run short.
          have failed : outcome.failure = some .broken := Outcome.crashes_iff.mp breaks
          rw [endedBy_of_crash breaks] at next
          refine ⟨true, outcome.database, outcome.replies.flatMap Reply.messages, next, ?_, ?_⟩
          · simp only [outcome] at failed breaks ⊢
            simp [Agrees, failed, Outcome.reported_of_crash breaks, breaks]
          · rintro ⟨whole, -⟩
            rw [Database.crashes_run, whole] at breaks
            contradiction
      | false =>
          rw [endedBy_of_calm breaks] at next
          have kept : (⟨outcome.database, desk.written ++ outcome.messages⟩ : Desk).database.Sound :=
            sound.run text
          obtain ⟨cut, final, told, ends, agrees, calm⟩ := induction kept others
          refine ⟨cut, final, outcome.messages ++ told, ?_, ?_, fun whole => calm whole.2⟩
          · rw [next, List.append_assoc] at *
            exact ends
          · cases failed : outcome.failure with
            | some error =>
                have told : outcome.reported = some error :=
                  Outcome.reported_of_failure failed (by simpa [Outcome.crashes, failed] using breaks)
                simp only [outcome] at failed told ⊢
                simp only [Agrees, told, Outcome.messages_of_reported told]
                exact ⟨_, by rw [List.append_assoc]; rfl⟩
            | none =>
                have told := Outcome.reported_of_success failed
                simp only [outcome] at failed told agrees ⊢
                simp only [Outcome.messages_of_unreported told, List.append_nil]
                simp only [Agrees, Outcome.after, Outcome.reported, Outcome.crashes,
                  List.flatMap_append, List.append_assoc, List.append_cancel_left_eq] at agrees ⊢
                exact agrees

/-- Behind every history, a batch of scripts without the current time is told like the scripts run one
after the other, up to where one cuts them short.  If they are told of an error, the batch leaves the
database as it was, and its one message is the first error.  If they are told of none and are not cut
short, the batch ends in the same database, and its one message adds up their results.  And if they are
cut short, it is as well: it writes nothing and leaves the database that they leave. -/
theorem batch_all_or_nothing_after_calls (history : List (Timestamp × Call))
    (scripts : List (Timestamp × String)) (timeless : ∀ entry ∈ scripts, Script.Timeless entry.2)
    (now : Timestamp) (written : List Message) :
    let start := Database.empty.calls history
    let ran := batch now (scripts.map (·.2)) ⟨start, written⟩
    ran = endedBy (start.runBatch now (scripts.map (·.2))) ⟨start, written⟩ ∧
    ∃ cut final told, separately scripts ⟨start, []⟩ = ended cut ⟨final, told⟩ ∧
      ((∀ entry ∈ scripts, Script.breaks entry.2 = false) → cut = false) ∧
      (∀ words, Message.firstFailure told = some words →
        ran = .ok () ⟨start, written ++ [.failure words]⟩) ∧
      (Message.firstFailure told = none → cut = false →
        ran = .ok () ⟨final,
          written ++ [.result (Message.lastNonZeroId told) (Message.totalAffected told)]⟩) ∧
      (Message.firstFailure told = none → cut = true → ran = .error .broken ⟨final, written⟩) := by
  intro start ran
  have sound : start.Sound := Database.sound_empty.calls history
  have begun (messages : List Message) : (⟨start, messages⟩ : Desk).database.Sound := sound
  obtain ⟨cut, final, told, ends, agrees, calm⟩ := separately_agrees (begun []) now timeless
  have same : ran = endedBy (start.runBatch now (scripts.map (·.2))) ⟨start, written⟩ :=
    batch_eq (begun written) _
  refine ⟨same, cut, final, told, ends, calm, ?_⟩
  rw [same]
  clear same ends calm ran
  generalize scripts.map (·.2) = texts at agrees ⊢
  simp only [Agrees] at agrees
  rcases (start.runEach now texts).cases with succeeded | broken | ⟨error, reported⟩
  · rw [Outcome.reported_of_success succeeded] at agrees
    obtain ⟨rfl, rfl, rfl⟩ := agrees
    have clear := Reply.firstFailure_append (start.runEach now texts).replies []
    rw [List.append_nil] at clear
    rw [clear, Outcome.crashes_of_success succeeded, Database.runBatch_of_success succeeded,
      Reply.lastId_eq, Reply.affected_eq]
    exact ⟨fun words found => by contradiction, fun _ _ => rfl, fun _ cut => by contradiction⟩
  · rw [Outcome.reported_of_crash broken] at agrees
    obtain ⟨rfl, rfl, rfl⟩ := agrees
    have clear := Reply.firstFailure_append (start.runEach now texts).replies []
    rw [List.append_nil] at clear
    rw [clear, broken, Database.runBatch_of_crash broken, endedBy_of_crash rfl, List.flatMap_nil,
      List.append_nil]
    exact ⟨fun words found => by contradiction, fun _ whole => by contradiction, fun _ _ => rfl⟩
  · rw [reported] at agrees
    obtain ⟨rest, rfl⟩ := agrees
    obtain ⟨-, calm⟩ := Outcome.reported_eq_some.mp reported
    rw [Reply.firstFailure_append, Database.runBatch_of_reported reported, endedBy_of_error calm]
    refine ⟨fun words found => ?_, fun none => by contradiction, fun none => by contradiction⟩
    obtain rfl : error.message = words := Option.some.inj found
    rfl

/-- A batch of a script that makes a table and one that fills it. -/
theorem batch_of_two_scripts :
    let now := Date.atMidnight ⟨1970, 1, 1, by decide⟩
    let scripts :=
      [(now, "CREATE TABLE t (a INTEGER UNIQUE)"), (now, "INSERT INTO t VALUES (1), (2)")]
    (∀ entry ∈ scripts, Script.Timeless entry.2) ∧
      batch now (scripts.map (·.2)) ⟨.empty, []⟩ =
        endedBy (Database.empty.runBatch now (scripts.map (·.2))) ⟨.empty, []⟩ := by
  intro now scripts
  have timeless : ∀ entry ∈ scripts, Script.Timeless entry.2 := by decide +kernel
  exact ⟨timeless, (batch_all_or_nothing_after_calls [] scripts timeless now []).1⟩

/-- A batch that breaks its reading behind a table that it makes writes nothing, and leaves the table. -/
theorem batch_cut_short :
    let now := Date.atMidnight ⟨1970, 1, 1, by decide⟩
    let texts := ["CREATE TABLE t (a INTEGER)", "ROLLBAC\u212a"]
    ∃ final, batch now texts ⟨.empty, []⟩ = .error .broken ⟨final, []⟩ ∧
      final.contains "t" = true := by
  intro now texts
  have cut : (Database.empty.runEach now texts).crashes = true := by decide +kernel
  have left : (Database.empty.runEach now texts).database.contains "t" = true := by decide +kernel
  refine ⟨_, (batch_eq Database.sound_empty texts).trans ?_, left⟩
  rw [Database.runBatch_of_crash cut]
  exact endedBy_of_crash rfl

end Work
end SqlEngine
