import SqlEngine.Proofs.Links
import SqlEngine.Proofs.Traffic

/-!
# What the engine does with the requests

At every moment the requests fall in two: those that the engine has taken, in the order of their
numbers, and those that wait behind them.  The engine's database is that behind the former, run one
after the other, and each of them has been written what it was answered in that run; only the last
may have part of it still to come.  The latter have been written nothing.
-/

namespace SqlEngine

/-- A request that has been written nothing. -/
def Dealing.unserved (stage : Stage) (asking : String × Request) : Dealing :=
  ⟨asking.1, asking.2, stage, []⟩

/-- A request has been written part of a reply, and all of it by the time it has ended. -/
structure Dealing.Tells (dealing : Dealing) (reply : String × List Message) : Prop where
  session : dealing.session = reply.1
  written : dealing.written <+: reply.2
  whole : dealing.stage = .ended → dealing.written = reply.2

/-- The dealings of requests that were run one after the other and have been answered. -/
def Intake.settled (database : Database) : List Intake → List Dealing
  | [] => []
  | intake :: taken =>
    ⟨intake.session, intake.request, .ended, (intake.request.run intake.now database).messages⟩ ::
      settled (intake.databaseBehind database) taken

namespace Phase

/-- Whether requests are still let into the queue. -/
def isOpen : Phase → Bool
  | closed | gone => false
  | _ => true

/-- Whether the engine holds its end of the link. -/
def isHeld : Phase → Bool
  | gone => false
  | _ => true

/-- Where the requests stand that have not been taken. -/
def fate : Phase → Stage
  | gone => .ended
  | _ => .queued

/-- Whether the engine holds the link and is not at a request. -/
def IsIdle : Phase → Prop
  | answering _ _ | gone => False
  | _ => True

/-- What is dealt with the requests taken: all are answered, up to the last if the engine is still
writing. -/
def Settles (phase : Phase) (taken : List Intake) (dealings : List Dealing) : Prop :=
  match phase with
  | answering index left => ∃ before intake written,
      taken = before ++ [intake] ∧ index = before.length ∧
      dealings = Intake.settled .empty before ++
        [⟨intake.session, intake.request, .taken, written⟩] ∧
      written ++ left = (intake.request.run intake.now (Intake.serialDatabase before)).messages
  | _ => dealings = Intake.settled .empty taken

variable {phase : Phase}

theorem IsIdle.settles_iff (idle : phase.IsIdle) (taken : List Intake) (dealings : List Dealing) :
    phase.Settles taken dealings ↔ dealings = Intake.settled .empty taken := by
  cases phase <;> first | exact idle.elim | exact Iff.rfl

theorem IsIdle.fate_eq (idle : phase.IsIdle) : phase.fate = .queued := by
  cases phase <;> first | exact idle.elim | rfl

theorem IsIdle.isHeld_eq (idle : phase.IsIdle) : phase.isHeld = true := by
  cases phase <;> first | exact idle.elim | rfl

end Phase

namespace Intake

@[simp]
theorem length_settled (database : Database) (taken : List Intake) :
    (settled database taken).length = taken.length := by
  induction taken generalizing database with
  | nil => rfl
  | cons intake taken induction => simp [settled, induction]

theorem settled_append (database : Database) (front back : List Intake) :
    settled database (front ++ back) =
      settled database front ++ settled (front.foldl databaseBehind database) back := by
  induction front generalizing database with
  | nil => rfl
  | cons intake front induction =>
      simp only [List.cons_append, settled, induction, List.foldl_cons]

theorem settled_concat (taken : List Intake) (intake : Intake) :
    settled .empty (taken ++ [intake]) = settled .empty taken ++
      [⟨intake.session, intake.request, .ended,
        (intake.request.run intake.now (serialDatabase taken)).messages⟩] :=
  settled_append .empty taken [intake]

theorem tells_settled (database : Database) (taken : List Intake) :
    List.Forall₂ Dealing.Tells (settled database taken) (serialReplies database taken) := by
  induction taken generalizing database with
  | nil => exact .nil
  | cons intake taken induction =>
      exact .cons ⟨rfl, List.prefix_rfl, fun _ => rfl⟩ (induction _)

theorem ended_of_settled {database : Database} {taken : List Intake} {dealing : Dealing}
    (member : dealing ∈ settled database taken) : dealing.stage = .ended := by
  induction taken generalizing database with
  | nil => cases member
  | cons intake taken induction =>
      rcases List.mem_cons.mp member with rfl | member
      · rfl
      · exact induction member

theorem requestsOf_settled (database : Database) (taken : List Intake) (name : String) :
    ((settled database taken).filter (·.session = name)).map (·.request) =
      requestsOf taken name := by
  induction taken generalizing database with
  | nil => rfl
  | cons intake taken induction =>
      simp only [requestsOf] at induction
      by_cases mine : intake.session = name <;> simp [settled, requestsOf, mine, induction]

end Intake

namespace Phase.Settles

variable {phase : Phase} {taken : List Intake} {dealings : List Dealing}

/-- The requests taken tell what they are answered when they are run one after the other. -/
theorem tells (settles : phase.Settles taken dealings) :
    List.Forall₂ Dealing.Tells dealings (Intake.serialReplies .empty taken) := by
  unfold Settles at settles
  split at settles
  · obtain ⟨before, intake, written, rfl, -, rfl, whole⟩ := settles
    rw [Intake.serialReplies_concat]
    refine List.rel_append (Intake.tells_settled _ _) (.cons ⟨rfl, ⟨_, whole⟩, ?_⟩ .nil)
    intro ended
    cases ended
  · rw [settles]
    exact Intake.tells_settled _ _

theorem requestsOf_eq (settles : phase.Settles taken dealings) (name : String) :
    (dealings.filter (·.session = name)).map (·.request) = Intake.requestsOf taken name := by
  unfold Settles at settles
  split at settles
  · obtain ⟨before, intake, written, rfl, -, rfl, -⟩ := settles
    simp only [Intake.requestsOf, List.filter_append, List.map_append]
    congr 1
    · exact Intake.requestsOf_settled _ _ _
    · by_cases mine : intake.session = name <;> simp [mine]
  · rw [settles]
    exact Intake.requestsOf_settled _ _ _

theorem length_eq (settles : phase.Settles taken dealings) : dealings.length = taken.length := by
  unfold Settles at settles
  split at settles
  · obtain ⟨before, intake, written, rfl, -, rfl, -⟩ := settles
    simp
  · simp [settles]

end Phase.Settles

namespace Traffic

/-- What holds of the engine's side while some requests wait. -/
structure Serving (traffic : Traffic) (waiting : List (String × Request)) : Prop where
  /-- The database is that behind the requests taken. -/
  database : traffic.database = Intake.serialDatabase traffic.taken
  /-- The requests are those taken and those that wait. -/
  dealings : ∃ settled, traffic.phase.Settles traffic.taken settled ∧
    traffic.link.dealings = settled ++ waiting.map (Dealing.unserved traffic.phase.fate)
  /-- The queue holds those that wait while the engine is there. -/
  queue : traffic.link.queue =
    if traffic.phase.isHeld then List.range' traffic.taken.length waiting.length else []
  /-- The link lets requests in until the engine closes it. -/
  accepting : traffic.link.accepting = traffic.phase.isOpen
  /-- The engine holds its end until it lets go of it. -/
  engineEnd : traffic.link.engineEnd = traffic.phase.isHeld

theorem serving_start (capacity : Nat) : (start capacity).Serving [] where
  database := rfl
  dealings := ⟨[], rfl, rfl⟩
  queue := rfl
  accepting := rfl
  engineEnd := rfl

namespace Serving

variable {traffic after : Traffic} {waiting : List (String × Request)}

/-- What sessions do without sending anything is nothing to the engine. -/
theorem of_same (serving : traffic.Serving waiting) (database : after.database = traffic.database)
    (phase : after.phase = traffic.phase) (taken : after.taken = traffic.taken)
    (dealings : after.link.dealings = traffic.link.dealings)
    (queue : after.link.queue = traffic.link.queue)
    (accepting : after.link.accepting = traffic.link.accepting)
    (engineEnd : after.link.engineEnd = traffic.link.engineEnd) : after.Serving waiting where
  database := by rw [database, taken, serving.database]
  dealings := by rw [phase, taken, dealings]; exact serving.dealings
  queue := by rw [queue, phase, taken]; exact serving.queue
  accepting := by rw [accepting, phase, serving.accepting]
  engineEnd := by rw [engineEnd, phase, serving.engineEnd]

/-- A request that is sent waits behind all others. -/
theorem of_send (serving : traffic.Serving waiting) {number index : Nat} {party : Party}
    {request : Request} {link : Link}
    (sent : traffic.link.send number request = (.ready (.ok index), link)) :
    ∃ asking, (setParty { traffic with link } number party).Serving (waiting ++ [asking]) := by
  obtain ⟨connection, -, accepting, -, -, same⟩ := Link.send_eq_ok sent
  obtain ⟨settled, settles, dealings⟩ := serving.dealings
  have isOpen : traffic.phase.isOpen = true := serving.accepting.symm.trans accepting
  have held : traffic.phase.isHeld = true ∧ traffic.phase.fate = .queued := by
    revert isOpen
    cases traffic.phase <;> simp [Phase.isOpen, Phase.isHeld, Phase.fate]
  have dealings' : link.dealings =
      traffic.link.dealings ++ [.unserved .queued (connection.session, request)] := by
    rw [same]
    simp [Link.dealings, Exchange.dealing, Dealing.unserved]
  have queue' : link.queue = traffic.link.queue ++ [traffic.link.dealings.length] := by
    rw [same, Link.length_dealings]
  have queue := serving.queue
  rw [if_pos held.1] at queue
  refine ⟨(connection.session, request), serving.database, ⟨settled, settles, ?_⟩, ?_, ?_, ?_⟩
  · simp [dealings', dealings, held.2]
  · simp [queue', queue, dealings, held.1, settles.length_eq, List.range'_concat]
  · simpa [same] using serving.accepting
  · simpa [same] using serving.engineEnd

/-- The first of the requests that wait is the first behind those taken. -/
theorem first_waiting (serving : traffic.Serving waiting) {index : Nat} {queue : List Nat}
    (phase : traffic.phase = .taking) (first : traffic.link.queue = index :: queue) :
    ∃ asking rest, waiting = asking :: rest ∧ index = traffic.taken.length ∧
      queue = List.range' (index + 1) rest.length ∧
      traffic.link.dealings = Intake.settled .empty traffic.taken ++
        .unserved .queued asking :: rest.map (.unserved .queued) := by
  obtain ⟨settled, settles, dealings⟩ := serving.dealings
  simp only [phase, Phase.Settles] at settles
  have waits := serving.queue
  simp only [phase, Phase.isHeld, if_true, first] at waits
  rw [eq_comm, List.range'_eq_cons_iff] at waits
  obtain ⟨place, some, queue_eq⟩ := waits
  obtain ⟨asking, rest, rfl⟩ := List.exists_cons_of_length_pos some
  refine ⟨asking, rest, rfl, place.symm, queue_eq, ?_⟩
  rw [dealings, settles, phase]
  rfl

/-- The first of the requests that wait stands in the queue. -/
theorem exists_queued (serving : traffic.Serving waiting) {index : Nat} {queue : List Nat}
    (phase : traffic.phase = .taking) (first : traffic.link.queue = index :: queue) :
    ∃ exchange, traffic.link.exchanges[index]? = some exchange ∧ exchange.stage = .queued := by
  obtain ⟨asking, rest, -, place, -, split⟩ := serving.first_waiting phase first
  have length : index = (Intake.settled .empty traffic.taken).length := by simp [place]
  obtain ⟨exchange, found, dealing⟩ := Link.exchange_of_split split length
  exact ⟨exchange, found, congrArg Dealing.stage dealing⟩

/-- The request that the engine is at is the last of those taken. -/
theorem at_hand (serving : traffic.Serving waiting) {index : Nat} {left : List Message}
    (phase : traffic.phase = .answering index left) :
    ∃ before intake written, traffic.taken = before ++ [intake] ∧ index = before.length ∧
      written ++ left = (intake.request.run intake.now (Intake.serialDatabase before)).messages ∧
      traffic.link.dealings = Intake.settled .empty before ++
        ⟨intake.session, intake.request, .taken, written⟩ :: waiting.map (.unserved .queued) := by
  obtain ⟨settled, settles, dealings⟩ := serving.dealings
  rw [phase] at settles
  obtain ⟨before, intake, written, taken, place, rfl, whole⟩ := settles
  refine ⟨before, intake, written, taken, place, whole, ?_⟩
  rw [dealings, phase, List.append_assoc, List.singleton_append]
  rfl

theorem exists_taken (serving : traffic.Serving waiting) {index : Nat} {left : List Message}
    (phase : traffic.phase = .answering index left) :
    ∃ exchange, traffic.link.exchanges[index]? = some exchange ∧ exchange.stage = .taken := by
  obtain ⟨before, intake, written, -, place, -, split⟩ := serving.at_hand phase
  have length : index = (Intake.settled .empty before).length := by simp [place]
  obtain ⟨exchange, found, dealing⟩ := Link.exchange_of_split split length
  exact ⟨exchange, found, congrArg Dealing.stage dealing⟩

/-- Nothing can come any more once the engine has let go of the link. -/
theorem ended_of_gone (serving : traffic.Serving waiting) (gone : traffic.phase = .gone) :
    ∀ dealing ∈ traffic.link.dealings, dealing.stage = .ended := by
  obtain ⟨settled, settles, dealings⟩ := serving.dealings
  simp only [gone, Phase.Settles] at settles
  rw [dealings, settles, gone]
  intro dealing member
  rcases List.mem_append.mp member with member | member
  · exact Intake.ended_of_settled member
  · obtain ⟨asking, -, rfl⟩ := List.mem_map.mp member
    rfl

/-- The engine takes the first of the requests that wait. -/
theorem of_take (serving : traffic.Serving waiting) {index : Nat} {link : Link}
    {exchange : Exchange} {now : Timestamp} (phase : traffic.phase = .taking)
    (accepted : traffic.link.accept = (.ready (some index), link))
    (found : link.exchanges[index]? = some exchange) :
    ∃ rest, Serving
      { traffic with
        link
        database := (exchange.request.run now traffic.database).database
        phase := .answering index (exchange.request.run now traffic.database).messages
        taken := traffic.taken ++ [⟨now, exchange.session, exchange.request⟩] } rest := by
  obtain ⟨queue, first, same⟩ := Link.accept_eq_some accepted
  obtain ⟨asking, rest, rfl, place, queue_eq, split⟩ := serving.first_waiting phase first
  have length : index = (Intake.settled .empty traffic.taken).length := by simp [place]
  -- The request stays in its place, which is now the last of those taken.
  have taken : link.dealings = Intake.settled .empty traffic.taken ++
      .unserved .taken asking :: rest.map (.unserved .queued) := by
    rw [same]
    have split' : { traffic.link with queue }.dealings = _ := split
    exact Link.dealings_modify_of_split (fun dealing => { dealing with stage := .taken })
      (fun _ => rfl) split' length
  obtain ⟨_, found', dealing⟩ := Link.exchange_of_split taken length
  obtain rfl := Option.some.inj (found.symm.trans found')
  have session : exchange.session = asking.1 := congrArg Dealing.session dealing
  have request : exchange.request = asking.2 := congrArg Dealing.request dealing
  refine ⟨rest, ?_, ⟨Intake.settled .empty traffic.taken ++ [.unserved .taken asking], ?_, ?_⟩,
    ?_, ?_, ?_⟩
  · simp [Intake.serialDatabase_concat, Intake.databaseBehind, serving.database]
  · refine ⟨traffic.taken, _, [], rfl, place, ?_, ?_⟩
    · simp [session, request, Dealing.unserved]
    · simp [serving.database]
  · simp [taken, Phase.fate]
  · simp [same, Link.modify, queue_eq, place, Phase.isHeld]
  · simpa [same, Link.modify, phase, Phase.isOpen] using serving.accepting
  · simpa [same, Link.modify, phase, Phase.isHeld] using serving.engineEnd

/-- The engine writes behind what it has written. -/
theorem of_write (serving : traffic.Serving waiting) {index : Nat} {message : Message}
    {left : List Message} (phase : traffic.phase = .answering index (message :: left)) :
    Serving
      { traffic with
        link := (traffic.link.write index message).2
        phase := .answering index left } waiting := by
  obtain ⟨before, intake, written, taken, place, whole, split⟩ := serving.at_hand phase
  have length : index = (Intake.settled .empty before).length := by simp [place]
  obtain ⟨exchange, found, stage⟩ := serving.exists_taken phase
  have same := Link.write_eq found stage message
  have dealings : (traffic.link.write index message).2.dealings =
      Intake.settled .empty before ++
        ⟨intake.session, intake.request, .taken, written ++ [message]⟩ ::
          waiting.map (.unserved .queued) := by
    rw [same]
    exact Link.dealings_modify_of_split
      (fun dealing => { dealing with written := dealing.written ++ [message] })
      (fun _ => rfl) split length
  refine ⟨serving.database, ⟨_, ⟨before, intake, written ++ [message], taken, place, rfl, ?_⟩, ?_⟩,
    ?_, ?_, ?_⟩
  · simpa using whole
  · rw [dealings]
    simp [Phase.fate]
  · simpa [same, Link.modify, phase, Phase.isHeld] using serving.queue
  · simpa [same, Link.modify, phase, Phase.isOpen] using serving.accepting
  · simpa [same, Link.modify, phase, Phase.isHeld] using serving.engineEnd

/-- A request that has been written everything has its answer. -/
theorem of_finish (serving : traffic.Serving waiting) {index : Nat}
    (phase : traffic.phase = .answering index []) :
    Serving { traffic with link := traffic.link.finish index, phase := .looking } waiting := by
  obtain ⟨before, intake, written, taken, place, whole, split⟩ := serving.at_hand phase
  have length : index = (Intake.settled .empty before).length := by simp [place]
  have dealings : (traffic.link.finish index).dealings = _ := Link.dealings_modify_of_split
    (fun dealing => { dealing with stage := .ended }) (fun _ => rfl) split length
  refine ⟨serving.database, ⟨_, rfl, ?_⟩, ?_, ?_, ?_⟩
  · rw [dealings, taken, Intake.settled_concat, ← whole]
    simp [Phase.fate]
  · simpa [Link.finish, Link.modify, phase, Phase.isHeld] using serving.queue
  · simpa [Link.finish, Link.modify, phase, Phase.isOpen] using serving.accepting
  · simpa [Link.finish, Link.modify, phase, Phase.isHeld] using serving.engineEnd

/-- The requests that wait end unanswered when the engine lets go of the link. -/
theorem dealings_finishAll {link : Link} {front : List Dealing}
    (split : link.dealings = front ++ waiting.map (.unserved .queued)) :
    ((List.range' front.length waiting.length).foldl Link.finish link).dealings =
      front ++ waiting.map (.unserved .ended) := by
  induction waiting generalizing link front with
  | nil => exact split
  | cons asking waiting induction =>
      have first : (link.finish front.length).dealings = _ := Link.dealings_modify_of_split
        (fun dealing => { dealing with stage := .ended }) (fun _ => rfl) split rfl
      have rest : (link.finish front.length).dealings =
          (front ++ [.unserved .ended asking]) ++ waiting.map (.unserved .queued) := by
        simpa [Dealing.unserved] using first
      have all := induction rest
      rw [List.length_append, List.length_singleton] at all
      rw [List.length_cons, List.range'_succ, List.foldl_cons, all]
      simp

theorem of_drop (serving : traffic.Serving waiting) (phase : traffic.phase = .closed) :
    Serving { traffic with link := traffic.link.dropEngine, phase := .gone } waiting := by
  obtain ⟨settled, settles, dealings⟩ := serving.dealings
  simp only [phase, Phase.Settles] at settles
  have queue := serving.queue
  simp only [phase, Phase.isHeld, if_true] at queue
  have length : traffic.taken.length = settled.length := by simp [settles]
  refine ⟨serving.database, ⟨settled, settles, ?_⟩, rfl, rfl, rfl⟩
  change (traffic.link.queue.foldl Link.finish traffic.link).dealings = _
  rw [queue, length]
  exact dealings_finishAll (by simpa [phase, Phase.fate] using dealings)

/-- An engine that is not at a request moves on in its loop, or out of it. -/
theorem of_idle (serving : traffic.Serving waiting) {phase : Phase} {accepting : Bool}
    (before : traffic.phase.IsIdle) (idle : phase.IsIdle) (same : accepting = phase.isOpen) :
    Serving { traffic with link := { traffic.link with accepting }, phase } waiting := by
  obtain ⟨settled, settles, dealings⟩ := serving.dealings
  refine ⟨serving.database, ⟨settled, ?_, ?_⟩, ?_, same, ?_⟩
  · exact (idle.settles_iff _ _).mpr ((before.settles_iff _ _).mp settles)
  · rw [before.fate_eq] at dealings
    rw [idle.fate_eq]
    exact dealings
  · have queue := serving.queue
    rw [before.isHeld_eq] at queue
    rw [idle.isHeld_eq]
    exact queue
  · have held := serving.engineEnd
    rw [before.isHeld_eq] at held
    rw [idle.isHeld_eq]
    exact held

/-- Whatever happens next, the engine goes on serving the requests in their order. -/
theorem step (serving : traffic.Serving waiting) (next : Step traffic after) :
    ∃ rest, after.Serving rest := by
  cases next with
  | connect fresh opened =>
      obtain ⟨-, rfl⟩ := Link.connect_eq_ok opened
      exact ⟨waiting, serving.of_same rfl rfl rfl rfl rfl rfl rfl⟩
  | leave found idle => exact ⟨waiting, serving.of_same rfl rfl rfl rfl rfl rfl rfl⟩
  | dropSessions => exact ⟨waiting, serving.of_same rfl rfl rfl rfl rfl rfl rfl⟩
  | ask request found idle held => exact ⟨waiting, serving.of_same rfl rfl rfl rfl rfl rfl rfl⟩
  | send found errand sent => exact ⟨_, (serving.of_send sent).choose_spec⟩
  | refuse found errand refused =>
      obtain ⟨-, -, rfl⟩ := Link.send_eq_error refused
      exact ⟨waiting, serving.of_same rfl rfl rfl rfl rfl rfl rfl⟩
  | hear found errand read =>
      obtain ⟨_, -, -, -, rfl⟩ := Link.next_eq_some read
      exact ⟨waiting, serving.of_same rfl rfl rfl
        (Link.dealings_modify_reader fun _ => rfl) rfl rfl rfl⟩
  | conclude found errand read =>
      obtain ⟨_, -, -, -, rfl⟩ := Link.next_eq_none read
      exact ⟨waiting, serving.of_same rfl rfl rfl
        (Link.dealings_modify_reader fun _ => rfl) rfl rfl rfl⟩
  | stop => exact ⟨waiting, serving.of_same rfl rfl rfl rfl rfl rfl rfl⟩
  | look phase =>
      refine ⟨waiting, serving.of_idle (by simp [phase, Phase.IsIdle]) ?_ ?_⟩
      · cases traffic.stopping <;> simp [Phase.IsIdle]
      · rw [serving.accepting, phase]
        cases traffic.stopping <;> rfl
  | take now phase accepted found => exact serving.of_take phase accepted found
  | rest phase accepted =>
      exact ⟨waiting, serving.of_idle (by simp [phase, Phase.IsIdle]) trivial
        (by rw [serving.accepting, phase]; rfl)⟩
  | dry phase accepted =>
      exact ⟨waiting, serving.of_idle (by simp [phase, Phase.IsIdle]) trivial
        (by rw [serving.accepting, phase]; rfl)⟩
  | write phase => exact ⟨waiting, serving.of_write phase⟩
  | finish phase => exact ⟨waiting, serving.of_finish phase⟩
  | close phase =>
      have held : traffic.link.engineEnd = true := by simp [serving.engineEnd, phase, Phase.isHeld]
      rw [Link.close_eq held]
      exact ⟨waiting, serving.of_idle (by simp [phase, Phase.IsIdle]) trivial rfl⟩
  | drop phase => exact ⟨waiting, serving.of_drop phase⟩

end Serving

namespace Serving

variable {traffic : Traffic} {waiting : List (String × Request)}

/-- The requests taken from a session are the first that it sent. -/
theorem requestsOf_prefix (serving : traffic.Serving waiting) (name : String) :
    Intake.requestsOf traffic.taken name <+:
      (traffic.link.dealingsOf name).map (·.request) := by
  obtain ⟨settled, settles, dealings⟩ := serving.dealings
  refine ⟨((waiting.map (Dealing.unserved traffic.phase.fate)).filter (·.session = name)).map
    (·.request), ?_⟩
  rw [Link.dealingsOf_eq, dealings, List.filter_append, List.map_append, settles.requestsOf_eq]

/-- A session is written what it is answered when the requests taken are run one after the other,
and nothing beyond it; only when the engine has gone does a request end that it has not taken. -/
theorem tells (serving : traffic.Serving waiting) {name : String} {place : Nat} {dealing : Dealing}
    (found : (traffic.link.dealingsOf name)[place]? = some dealing) :
    dealing.Tells (name, ((Intake.repliesTo traffic.taken name)[place]?).getD []) ∧
      (dealing.stage = .ended → (Intake.repliesTo traffic.taken name)[place]? = none →
        traffic.phase = .gone) := by
  obtain ⟨settled, settles, dealings⟩ := serving.dealings
  have mine : List.Forall₂ Dealing.Tells (settled.filter (·.session = name))
      ((Intake.serialReplies .empty traffic.taken).filter (·.1 = name)) := by
    refine List.rel_filter ?_ settles.tells
    intro dealing reply tells
    simp [tells.session]
  rw [Link.dealingsOf_eq] at found
  have session : dealing.session = name := by
    simpa using (List.mem_filter.mp (List.mem_of_getElem? found)).2
  rw [dealings, List.filter_append] at found
  by_cases inside : place < (settled.filter (·.session = name)).length
  · rw [List.getElem?_append_left inside] at found
    have inside' := mine.length_eq ▸ inside
    have told := mine.get inside inside'
    obtain ⟨_, rfl⟩ := List.getElem?_eq_some_iff.mp found
    refine ⟨⟨session, ?_, fun ended => ?_⟩, fun _ none => ?_⟩
    · simpa [Intake.repliesTo, List.getElem?_eq_getElem inside'] using told.written
    · simpa [Intake.repliesTo, List.getElem?_eq_getElem inside'] using told.whole ended
    · simp [Intake.repliesTo, List.getElem?_eq_getElem inside'] at none
  · have outside : (Intake.repliesTo traffic.taken name)[place]? = none := by
      rw [List.getElem?_eq_none_iff, Intake.repliesTo, List.length_map, ← mine.length_eq]
      omega
    rw [List.getElem?_append_right (by omega)] at found
    obtain ⟨asking, -, rfl⟩ := List.mem_map.mp (List.mem_filter.mp (List.mem_of_getElem? found)).1
    rw [outside]
    refine ⟨⟨session, List.prefix_rfl, fun _ => rfl⟩, fun ended _ => ?_⟩
    have fate : traffic.phase.fate = .ended := ended
    revert fate
    cases traffic.phase <;> simp [Phase.fate]

end Serving

theorem serving_of_reaches {capacity : Nat} {traffic : Traffic}
    (reached : Reaches (start capacity) traffic) : ∃ waiting, traffic.Serving waiting := by
  induction reached with
  | refl => exact ⟨[], serving_start capacity⟩
  | tail _ next induction => exact induction.elim fun _ serving => serving.step next

end Traffic
end SqlEngine
