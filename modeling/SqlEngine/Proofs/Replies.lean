import SqlEngine.Answer
import SqlEngine.Execution.Run

/-!
# Replies among messages

The messages of an outcome are those of its replies, and behind them that of its error.  What a
session makes of them, message by message, is told here by the replies as they are: the last change,
the last rows, or the error.
-/

namespace SqlEngine

namespace Reply

/-- The outcome of a change, if that is the reply. -/
def change? : Reply → Option ChangeResult
  | changed lastId affected => some ⟨lastId, affected⟩
  | rows _ _ => none

/-- The rows of a query, if they are the reply. -/
def rowSet? : Reply → Option RowSet
  | changed _ _ => none
  | rows header cells => some ⟨header, cells⟩

@[simp]
theorem change?_changed (lastId affected : Int) :
    (changed lastId affected).change? = some ⟨lastId, affected⟩ := rfl

@[simp]
theorem change?_rows (header : List String) (cells : List (List (Option String))) :
    (rows header cells).change? = none := rfl

@[simp]
theorem rowSet?_changed (lastId affected : Int) : (changed lastId affected).rowSet? = none := rfl

@[simp]
theorem rowSet?_rows (header : List String) (cells : List (List (Option String))) :
    (rows header cells).rowSet? = some ⟨header, cells⟩ := rfl

theorem messages_ne_nil (reply : Reply) : reply.messages ≠ [] := by
  cases reply <;> simp [messages]

end Reply

theorem Error.isCrash_iff {error : Error} : error.isCrash = true ↔ error = .broken := by
  cases error <;> simp [isCrash]

namespace Outcome

variable {outcome : Outcome} {error : Error}

theorem crashes_iff : outcome.crashes = true ↔ outcome.failure = some .broken := by
  unfold crashes
  cases outcome.failure with
  | none => simp
  | some error => simp [Error.isCrash_iff]

theorem reported_of_success (succeeded : outcome.failure = none) : outcome.reported = none := by
  simp [reported, succeeded]

theorem reported_of_failure (failed : outcome.failure = some error)
    (told : error.isCrash = false) : outcome.reported = some error := by
  simp [reported, failed, told]

/-- Where a run is cut short, no error is told. -/
theorem reported_of_crash (cut : outcome.crashes = true) : outcome.reported = none := by
  rw [reported, crashes_iff.mp cut]
  rfl

theorem reported_eq_some : outcome.reported = some error ↔
    outcome.failure = some error ∧ error.isCrash = false := by
  simp [reported, Option.filter_eq_some_iff]

/-- A run comes to its end, is cut short, or fails with an error that is told. -/
theorem cases (outcome : Outcome) :
    outcome.failure = none ∨ outcome.crashes = true ∨ ∃ error, outcome.reported = some error := by
  cases failed : outcome.failure with
  | none => exact .inl rfl
  | some error =>
      cases cut : error.isCrash with
      | true => exact .inr (.inl (by simp [crashes, failed, cut]))
      | false => exact .inr (.inr ⟨error, reported_of_failure failed cut⟩)

theorem crashes_of_success (succeeded : outcome.failure = none) : outcome.crashes = false := by
  simp [crashes, succeeded]

theorem messages_of_reported (reported : outcome.reported = some error) :
    outcome.messages = outcome.replies.flatMap Reply.messages ++ [error.toMessage] := by
  simp [messages, reported]

theorem messages_of_unreported (silent : outcome.reported = none) :
    outcome.messages = outcome.replies.flatMap Reply.messages ++ [] := by
  simp [messages, silent]

theorem messages_ne_nil (some : outcome.replies ≠ []) : outcome.messages ≠ [] := by
  obtain ⟨reply, replies, split⟩ := List.exists_cons_of_ne_nil some
  simp [messages, split, reply.messages_ne_nil]

end Outcome

/-! ## Batches -/

namespace Database

variable {now : Timestamp} {database : Database} {scripts : List String} {error : Error}

theorem runBatch_of_success (succeeded : (database.runEach now scripts).failure = none) :
    database.runBatch now scripts =
      ⟨[.changed (Reply.lastId (database.runEach now scripts).replies)
        (Reply.affected (database.runEach now scripts).replies)], none,
        (database.runEach now scripts).database⟩ := by
  simp [runBatch, succeeded]

theorem runBatch_of_reported (reported : (database.runEach now scripts).reported = some error) :
    database.runBatch now scripts = ⟨[], some error, database⟩ := by
  obtain ⟨failed, calm⟩ := Outcome.reported_eq_some.mp reported
  simp [runBatch, failed, calm]

theorem runBatch_of_crash (cut : (database.runEach now scripts).crashes = true) :
    database.runBatch now scripts =
      ⟨[], some .broken, (database.runEach now scripts).database⟩ := by
  simp [runBatch, Outcome.crashes_iff.mp cut, Error.isCrash]

theorem crashes_runBatch (now : Timestamp) (database : Database) (scripts : List String) :
    (database.runBatch now scripts).crashes = (database.runEach now scripts).crashes := by
  simp only [runBatch, Outcome.crashes]
  cases (database.runEach now scripts).failure <;> rfl

end Database

variable {outcome : Outcome} {error : Error}

/-! ## The last change -/

namespace ChangeResult

theorem collect_rows (last : ChangeResult) (cells : List (List (Option String)))
    (messages : List Message) :
    collect last (cells.map Message.row ++ messages) = collect last messages := by
  induction cells with
  | nil => rfl
  | cons row cells induction => exact induction

theorem collect_flatMap (last : ChangeResult) (replies : List Reply) (messages : List Message) :
    collect last (replies.flatMap Reply.messages ++ messages) =
      collect ((replies.filterMap Reply.change?).getLast?.getD last) messages := by
  induction replies generalizing last with
  | nil => rfl
  | cons reply replies induction =>
      rw [List.flatMap_cons, List.append_assoc]
      cases reply with
      | changed lastId affected =>
          rw [List.filterMap_cons_some (Reply.change?_changed lastId affected), List.getLast?_cons]
          exact induction ⟨lastId, affected⟩
      | rows header cells =>
          rw [List.filterMap_cons_none (Reply.change?_rows header cells), ← induction last]
          simp only [Reply.messages, List.cons_append, List.append_assoc, collect, collect_rows,
            List.nil_append]

theorem ofMessages_of_replies (succeeded : outcome.failure = none) (some : outcome.replies ≠ []) :
    ofMessages outcome.messages =
      .ok ((outcome.replies.filterMap Reply.change?).getLast?.getD {}) := by
  rw [ofMessages, if_neg (by simpa using Outcome.messages_ne_nil some),
    Outcome.messages_of_unreported (Outcome.reported_of_success succeeded), collect_flatMap, collect]

theorem ofMessages_of_reported (reported : outcome.reported = some error) :
    ofMessages outcome.messages = .error (.ofRemote error.message) := by
  rw [ofMessages, Outcome.messages_of_reported reported, if_neg (by simp), collect_flatMap]
  rfl

end ChangeResult

/-! ## The last rows -/

namespace RowSet

theorem collect_rows (current last : RowSet) (cells : List (List (Option String)))
    (messages : List Message) :
    collect current last (cells.map Message.row ++ messages) =
      collect { current with rows := current.rows ++ cells } last messages := by
  induction cells generalizing current with
  | nil => simp
  | cons row cells induction =>
      rw [List.map_cons, List.cons_append, collect, induction, List.append_assoc]
      rfl

/-- Between two replies no rows are under way. -/
theorem collect_flatMap (last : RowSet) (replies : List Reply) (messages : List Message) :
    collect {} last (replies.flatMap Reply.messages ++ messages) =
      collect {} ((replies.filterMap Reply.rowSet?).getLast?.getD last) messages := by
  induction replies generalizing last with
  | nil => rfl
  | cons reply replies induction =>
      rw [List.flatMap_cons, List.append_assoc]
      cases reply with
      | changed lastId affected =>
          rw [List.filterMap_cons_none (Reply.rowSet?_changed lastId affected)]
          exact induction last
      | rows header cells =>
          rw [List.filterMap_cons_some (Reply.rowSet?_rows header cells), List.getLast?_cons,
            Option.getD_some, ← induction ⟨header, cells⟩]
          simp only [Reply.messages, List.cons_append, List.append_assoc, collect, collect_rows,
            List.nil_append]

theorem ofMessages_of_replies (succeeded : outcome.failure = none) (some : outcome.replies ≠ []) :
    ofMessages outcome.messages =
      .ok ((outcome.replies.filterMap Reply.rowSet?).getLast?.getD {}) := by
  rw [ofMessages, if_neg (by simpa using Outcome.messages_ne_nil some),
    Outcome.messages_of_unreported (Outcome.reported_of_success succeeded), collect_flatMap, collect]

theorem ofMessages_of_reported (reported : outcome.reported = some error) :
    ofMessages outcome.messages = .error (.ofRemote error.message) := by
  rw [ofMessages, Outcome.messages_of_reported reported, if_neg (by simp), collect_flatMap]
  rfl

end RowSet
end SqlEngine
