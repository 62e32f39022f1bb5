import SqlEngine.Proofs.Overflows
import SqlEngine.Proofs.Recognition

/-!
# What is settled when a script is kept

A transaction reads every script that it is offered, and refuses one with a fault in its text or
with a statement that it cannot keep.  Of what it has kept, nothing is refused for its text when it
is applied, but for the numbers that are out of range: the grammar lets them pass, and it is only
found out that they have no value when the value is needed.
-/

namespace SqlEngine

/-! ## How errors are told -/

namespace Error

theorem message_shape (fault : ShapeFault) : (shape fault).message = fault.message := rfl

theorem message_constraint (fault : ConstraintFault) :
    (constraint fault).message = "constraint violation: " ++ fault.message := rfl

theorem message_unsupported (feature : Feature) :
    (unsupported feature).message = feature.message ++ " is not supported" := rfl

/-- An error of values, rows and tables is told neither as a fault of a text nor as something
missing. -/
theorem IsPlain.told {error : Error} (plain : error.IsPlain) :
    ¬ "parse error: ".toList <+: error.message.toList ∧
      ¬ " is not implemented".toList <:+ error.message.toList := by
  rw [← List.reverse_prefix]
  cases error with
  | shape fault =>
      rw [message_shape]
      cases fault <;> simp at plain <;> unfold ShapeFault.message <;> simp [toString]
  | constraint fault =>
      rw [message_constraint]
      cases fault <;> simp at plain <;> unfold ConstraintFault.message <;> simp [toString]
  | unsupported feature =>
      rw [message_unsupported]
      cases feature <;> simp at plain
      unfold Feature.message
      simp [toString]
  | notFound table =>
      unfold message
      simp [toString]
  | alreadyExists table =>
      unfold message
      simp [toString]
  | columnCountMismatch => decide
  | typeMismatch => decide
  | noCell place =>
      unfold message
      refine ⟨by simp [toString], fun ending => ?_⟩
      obtain ⟨last, digits, split⟩ := List.exists_cons_of_ne_nil
        (List.reverse_ne_nil_iff.mpr (Nat.toDigits_ne_nil (b := 10) (n := place)))
      have digit : last.isDigit = true := Nat.isDigit_of_mem_toDigits (by decide) (by decide)
        (List.mem_reverse.mp (split ▸ List.mem_cons_self))
      simp [toString, split] at ending
      rw [← ending.1] at digit
      contradiction
  | _ => simp at plain

/-- A report of a duration ends with a unit, and all units end with the same letter. -/
theorem told_timeout (limit : Duration) :
    ¬ "parse error: ".toList <+: (timeout limit).message.toList ∧
      ¬ " is not implemented".toList <:+ (timeout limit).message.toList := by
  have unit : ∃ amount, limit.report.toList = amount ++ ['s'] := by
    unfold Duration.report
    rw [String.toList_ofList]
    split
    · exact ⟨_, rfl⟩
    split
    · exact ⟨_, (List.append_assoc _ ['m'] ['s']).symm⟩
    split
    · exact ⟨_, (List.append_assoc _ ['µ'] ['s']).symm⟩
    · exact ⟨_, (List.append_assoc _ ['n'] ['s']).symm⟩
  obtain ⟨amount, ends⟩ := unit
  rw [← List.reverse_prefix]
  unfold message
  simp [String.toList_append, ends]

theorem IsSettled.plain_or_parse {faults : ParseFault → Prop} {error : Error}
    (settled : error.IsSettled faults) (ordinary : error.IsOrdinary) :
    error.IsPlain ∨ ∃ fault, error = .parse fault ∧ faults fault := by
  cases error with
  | parse fault => exact .inr ⟨fault, rfl, settled⟩
  | shape fault => cases fault <;> simp_all
  | _ => simp_all

end Error

/-- A number out of range is told by its text between quotes. -/
theorem Tree.Overflows.not_unimplemented {tree : Tree} {fault : ParseFault}
    (overflows : tree.Overflows fault) :
    ¬ " is not implemented".toList <:+ (Error.parse fault).message.toList := by
  rw [← List.reverse_prefix]
  induction overflows with
  | number =>
      unfold Error.message ParseFault.message
      simp [toString]
  | length =>
      unfold Error.message ParseFault.message
      simp [toString]
  | inside _ _ _ _ induction => exact induction

/-! ## Offers -/

/-- The error for which a transaction does not keep a statement, if there is one. -/
def Tree.refusal? (tree : Tree) : Option Error :=
  if tree.token = .select then some (.unsupported .queuedQuery)
  else if tree.token ∈ controlTokens then some (.unsupported .nested)
  else none

/-- The error for which a transaction does not keep a script, if there is one: the fault of its
text, or else that of its first statement that is a query or controls a transaction. -/
def Script.refusal? (text : String) : Option Error :=
  match parse text with
  | .error error => some error
  | .ok trees => trees.findSome? Tree.refusal?

theorem Script.isChange_of_refusal? {text : String} (kept : refusal? text = none) :
    IsChange text := by
  unfold refusal? at kept
  split at kept
  · contradiction
  · rename_i trees read
    refine ⟨trees, read, fun tree member => ?_⟩
    have passed := List.findSome?_eq_none_iff.mp kept tree member
    simp only [Tree.refusal?] at passed
    split at passed
    · contradiction
    · split at passed
      · contradiction
      · simp [*]

namespace Transaction

variable (transaction : Transaction)

/-- Offers scripts to a transaction one after the other: the error for each that is refused, which
leaves the transaction as it is, and the transaction behind them. -/
def offer (transaction : Transaction) : List String → List (Option Error) × Transaction
  | [] => ([], transaction)
  | text :: texts =>
    match transaction.queue text with
    | .error error =>
      let (answers, final) := transaction.offer texts
      (some error :: answers, final)
    | .ok next =>
      let (answers, final) := next.offer texts
      (none :: answers, final)

theorem checkStatement_eq (tree : Tree) :
    checkStatement tree = tree.refusal?.elim (.ok ()) .error := by
  obtain ⟨token, lexeme, children⟩ := tree
  cases token <;> rfl

theorem forM_checkStatement (trees : List Tree) :
    trees.forM checkStatement = (trees.findSome? Tree.refusal?).elim (.ok ()) .error := by
  induction trees with
  | nil => rfl
  | cons tree trees induction =>
      change (checkStatement tree >>= fun _ => trees.forM checkStatement) = _
      rw [checkStatement_eq, induction]
      cases refused : tree.refusal? <;> simp [refused, bind, Except.bind]

theorem queue_eq (text : String) :
    transaction.queue text =
      (Script.refusal? text).elim (.ok ⟨transaction.pending ++ [text]⟩) .error := by
  unfold queue Script.refusal?
  cases Script.parse text with
  | error error => rfl
  | ok trees =>
      simp only [bind, Except.bind, forM_checkStatement]
      cases trees.findSome? Tree.refusal? <;> rfl

/-- A script is refused for itself alone, whatever was kept before it. -/
theorem offer_eq (texts : List String) :
    transaction.offer texts = (texts.map Script.refusal?,
      ⟨transaction.pending ++ texts.filter fun text => (Script.refusal? text).isNone⟩) := by
  induction texts generalizing transaction with
  | nil => simp [offer]
  | cons text texts induction =>
      rw [offer, queue_eq]
      cases refused : Script.refusal? text <;> simp [refused, induction]

end Transaction

/-! ## Applying what was kept -/

namespace Registry

variable {registry : Registry} {session : Session} {occasion : Occasion} {error : Error}

/-- A batch is told to have failed with an error of its scripts, or with none if it was cut short. -/
theorem failure_of_runBatch {now : Timestamp} {database : Database} {texts : List String}
    (told : ChangeResult.ofMessages (database.runBatch now texts).messages = .error error) :
    error = .engineStopped ∨ ∃ failure, (database.runBatch now texts).reported = some failure ∧
      error = .ofRemote failure.message := by
  rcases (database.runBatch now texts).cases with succeeded | cut | ⟨failure, reported⟩
  · have some := @Request.replies_ne_nil (.batch texts) _ _ succeeded
    rw [ChangeResult.ofMessages_of_replies succeeded some] at told
    contradiction
  · rw [Database.crashes_runBatch] at cut
    rw [Database.runBatch_of_crash cut] at told
    exact .inl (Except.error.inj told).symm
  · rw [ChangeResult.ofMessages_of_reported reported] at told
    exact .inr ⟨failure, reported, (Except.error.inj told).symm⟩

/-- What is told when a transaction cannot be applied: that the engine has stopped, that the limit has
passed, or what a batch of its scripts failed with. -/
theorem failure_of_commit {transaction : Transaction}
    (failed : (registry.commit occasion session transaction).1 = .error error) :
    error = .engineStopped ∨ (∃ limit, error = .timeout limit) ∨
      ∃ (database : Database) (failure : Error),
        (database.runBatch occasion.now transaction.pending).reported = some failure ∧
          error = .ofRemote failure.message := by
  unfold commit at failed
  split at failed
  · contradiction
  cases found : registry.server? session with
  | none =>
      simp only [request, found] at failed
      exact .inl (Except.error.inj failed).symm
  | some server =>
      cases running : server.engine.running with
      | false =>
          rw [request_of_stopped found running] at failed
          exact .inl (Except.error.inj failed).symm
      | true =>
          rw [request_of_running found running] at failed
          dsimp only at failed
          by_cases inTime : occasion.InTime server.timeout
          · rw [Occasion.tell_of_inTime inTime] at failed
            rcases failure_of_runBatch failed with stopped | told
            · exact .inl stopped
            · exact .inr (.inr ⟨_, told⟩)
          · obtain ⟨limit, timeout⟩ := Occasion.exists_of_not_inTime inTime
            rw [timeout] at inTime failed
            rw [Occasion.tell_of_passed inTime] at failed
            exact .inr (.inl ⟨limit, (Except.error.inj failed).symm⟩)

/-- Whatever texts a transaction is offered, it keeps those that can be read and have no statement
that is a query or controls a transaction, in order; for every other it answers at once with the
error, and stays as it was.  When it is applied, by whatever engine, nothing of what it kept turns
out to be missing; and a text turns out to have a fault only where a number in it is out of
range. -/
theorem only_overflows_left_at_commit (registry : Registry) (session : Session)
    (occasion : Occasion) (texts : List String) :
    let offered := Transaction.offer {} texts
    offered.1 = texts.map Script.refusal? ∧
    offered.2.pending = texts.filter (fun text => (Script.refusal? text).isNone) ∧
    ∀ error, (registry.commit occasion session offered.2).1 = .error error →
      ¬ " is not implemented".toList <:+ error.message.toList ∧
      ("parse error: ".toList <+: error.message.toList →
        ∃ text ∈ offered.2.pending, ∃ fault, Script.Overflows text fault ∧
          error.message = "parse error: " ++ fault.message) := by
  rw [Transaction.offer_eq]
  refine ⟨rfl, rfl, fun error failed => ?_⟩
  rcases failure_of_commit failed with rfl | ⟨limit, rfl⟩ | ⟨database, failure, reported, rfl⟩
  · exact ⟨by decide, fun opening => absurd opening (by decide)⟩
  · exact ⟨(Error.told_timeout limit).2, fun opening => absurd opening (Error.told_timeout limit).1⟩
  rw [Error.message_ofRemote]
  have changes : ∀ text ∈ [] ++ texts.filter fun text => (Script.refusal? text).isNone,
      Script.IsChange text := fun text member =>
    Script.isChange_of_refusal? (Option.isNone_iff_eq_none.mp (List.mem_filter.mp member).2)
  have settled := Database.settled_of_runBatch changes (Outcome.reported_eq_some.mp reported).1
  have ordinary : failure.IsOrdinary := @Request.ordinary_of_run (.batch _) _ _ _ reported
  rcases settled.plain_or_parse ordinary with plain | ⟨fault, rfl, text, member, found⟩
  · exact ⟨plain.told.2, fun opening => absurd opening plain.told.1⟩
  · refine ⟨?_, fun _ => ⟨text, member, fault, found, rfl⟩⟩
    obtain ⟨trees, -, tree, -, overflows⟩ := found
    exact overflows.not_unimplemented

/-- Of four texts two are refused, and of the two that are kept one has a number out of range. -/
theorem overflow_among_four_texts :
    let occasion : Occasion := { now := Date.atMidnight ⟨1970, 1, 1, by decide⟩ }
    let start := (Shell.start? {} "").get Shell.isSome_start?
    let texts := ["CREATE TABLE t (a INTEGER)", "INSERT INTO t VALUES (1", "SELECT * FROM t",
      "INSERT INTO t VALUES (99999999999999999999)"]
    let offered := Transaction.offer {} texts
    let error := Error.remote "parse error: invalid number '99999999999999999999'"
    offered.2.pending = [texts[0], texts[3]] ∧
    (start.registry.commit occasion start.session offered.2).1 = .error error ∧
    ∃ text ∈ offered.2.pending, ∃ fault, Script.Overflows text fault ∧
      error.message = "parse error: " ++ fault.message := by
  intro occasion start texts offered error
  have failed : (start.registry.commit occasion start.session offered.2).1 = .error error := by
    decide +kernel
  obtain ⟨-, -, left⟩ :=
    only_overflows_left_at_commit start.registry start.session occasion texts
  exact ⟨by decide +kernel, failed, (left error failed).2 (by decide)⟩

/-- An integer and the length of a type that do not fit are both kept, and only found out when the
transaction is applied. -/
theorem overflows_found_at_commit :
    let occasion : Occasion := { now := Date.atMidnight ⟨1970, 1, 1, by decide⟩ }
    let start := (Shell.start? {} "").get Shell.isSome_start?
    ∀ kept ∈ [
        (["CREATE TABLE t (a INTEGER)", "INSERT INTO t VALUES (99999999999999999999)"],
          "parse error: invalid number '99999999999999999999'"),
        (["CREATE TABLE t (a VARCHAR(99999999999999999999))"],
          "parse error: invalid type length '99999999999999999999'")],
      (Transaction.offer {} kept.1).2.pending = kept.1 ∧
      (start.registry.commit occasion start.session ⟨kept.1⟩).1 = .error (.remote kept.2) := by
  decide +kernel

end Registry
end SqlEngine
