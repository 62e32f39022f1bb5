import SqlEngine.Proofs.Batches
import SqlEngine.Proofs.Stopping

/-!
# One request after the other

However sessions and the engine take turns, what comes of it is what comes of running the requests
that the engine has taken one after the other, each as a whole.
-/

namespace SqlEngine

/-! ## Requests one after the other -/

theorem Request.sound_run {database : Database} (sound : database.Sound) (now : Timestamp)
    (request : Request) : (request.run now database).database.Sound := by
  cases request with
  | script text => exact sound.run text
  | batch texts => exact sound.runBatch texts

/-- A request that can be read is not cut short. -/
theorem Request.crashes_run {request : Request} (whole : request.breaks = false) (now : Timestamp)
    (database : Database) : (request.run now database).crashes = false := by
  cases request with
  | script text => exact (Database.crashes_run now database text).trans whole
  | batch texts =>
      rw [run, Database.crashes_runBatch]
      exact Database.crashes_runEach (by simpa [breaks] using whole)

/-- Every request that can be read has an answer. -/
theorem Request.messages_ne_nil {database : Database} (sound : database.Sound) (now : Timestamp)
    {request : Request} (whole : request.breaks = false) :
    (request.run now database).messages ≠ [] := by
  cases request with
  | script text => exact (Work.answers_of_run sound whole).ne_nil
  | batch texts =>
      have calm : (database.runBatch now texts).crashes = false := crashes_run whole now database
      rcases (database.runEach now texts).cases with succeeded | cut | ⟨error, reported⟩
      · simp [run, Database.runBatch_of_success succeeded, Outcome.messages, Reply.messages]
      · rw [Database.crashes_runBatch, cut] at calm
        contradiction
      · obtain ⟨-, told⟩ := Outcome.reported_eq_some.mp reported
        simp [run, Database.runBatch_of_reported reported, Outcome.messages, Outcome.reported, told]

namespace Intake

theorem ne_nil_of_mem_serialReplies {database : Database} (sound : database.Sound)
    {taken : List Intake} (whole : ∀ intake ∈ taken, intake.request.breaks = false)
    {reply : String × List Message} (member : reply ∈ serialReplies database taken) : reply.2 ≠ [] := by
  induction taken generalizing database with
  | nil => cases member
  | cons intake taken induction =>
      obtain ⟨first, others⟩ := List.forall_mem_cons.mp whole
      rcases List.mem_cons.mp member with rfl | member
      · exact Request.messages_ne_nil sound intake.now first
      · exact induction (intake.request.sound_run sound intake.now) others member

theorem ne_nil_of_mem_repliesTo {taken : List Intake}
    (whole : ∀ intake ∈ taken, intake.request.breaks = false) {name : String}
    {messages : List Message} (member : messages ∈ repliesTo taken name) : messages ≠ [] := by
  obtain ⟨reply, member', rfl⟩ := List.mem_map.mp member
  exact ne_nil_of_mem_serialReplies Database.sound_empty whole (List.mem_filter.mp member').1

theorem length_repliesTo (taken : List Intake) (name : String) :
    (repliesTo taken name).length = (requestsOf taken name).length := by
  simp only [repliesTo, requestsOf, List.length_map]
  generalize Database.empty = database
  induction taken generalizing database with
  | nil => rfl
  | cons intake taken induction =>
      by_cases mine : intake.session = name <;> simp [serialReplies, mine, induction]

/-- A batch takes effect as a whole or not at all, whatever else was taken before it. -/
theorem serialDatabase_batch (front : List Intake) (now : Timestamp) (session : String)
    {texts : List String} (whole : (Request.batch texts).breaks = false) :
    serialDatabase (front ++ [⟨now, session, .batch texts⟩]) =
      match ((serialDatabase front).runEach now texts).failure with
      | none => ((serialDatabase front).runEach now texts).database
      | some _ => serialDatabase front := by
  rw [serialDatabase_concat]
  have calm := Request.crashes_run whole now (serialDatabase front)
  simp only [databaseBehind, Request.run] at calm ⊢
  rcases ((serialDatabase front).runEach now texts).cases with succeeded | cut | ⟨error, reported⟩
  · rw [Database.runBatch_of_success succeeded, succeeded]
  · rw [Database.crashes_runBatch, cut] at calm
    contradiction
  · obtain ⟨failed, -⟩ := Outcome.reported_eq_some.mp reported
    rw [Database.runBatch_of_reported reported, failed]

end Intake

/-! ## What sessions are answered -/

/-- A session is answered as if the requests that were taken had been run one after the other. -/
structure Traffic.Serves (traffic : Traffic) (party : Party) : Prop where
  /-- The requests taken from it are the first that it asked, in its order. -/
  accepted : Intake.requestsOf traffic.taken party.name <+: party.asked
  /-- It has an answer to all that it asked but for what it is about. -/
  inTurn : party.errand = .none ∧ party.asked.length = party.answers.length ∨
    party.errand ≠ .none ∧ party.asked.length = party.answers.length + 1
  /-- A request that was taken is answered in full. -/
  answered : ∀ (place : Nat) (messages : List Message) (answer : Except Error (List Message)),
    (Intake.repliesTo traffic.taken party.name)[place]? = some messages →
    party.answers[place]? = some answer → answer = .ok messages ∧ messages ≠ []
  /-- A request that was not taken is answered that the engine has stopped, as it then has. -/
  refused : ∀ (place : Nat) (answer : Except Error (List Message)),
    (Intake.repliesTo traffic.taken party.name)[place]? = none →
    party.answers[place]? = some answer → traffic.link.accepting = false ∧
      answer.bind ChangeResult.ofMessages = .error .engineStopped ∧
      answer.bind RowSet.ofMessages = .error .engineStopped
  /-- What it has heard of an answer is the beginning of that. -/
  heard : ∀ (index : Nat) (heard : List Message), party.errand = .waiting index heard →
    heard <+: ((Intake.repliesTo traffic.taken party.name)[party.answers.length]?).getD []

namespace Party.Kept

variable {link : Link} {party : Party}

theorem inTurn (kept : party.Kept link) :
    party.errand = .none ∧ party.asked.length = party.answers.length ∨
      party.errand ≠ .none ∧ party.asked.length = party.answers.length + 1 := by
  cases kept with
  | idle => simp [answersOf]
  | sending => simp [answersOf, Nat.add_assoc]
  | waiting => simp [answersOf]

theorem prefix_asked (kept : party.Kept link) :
    (link.dealingsOf party.name).map (·.request) <+: party.asked := by
  cases kept with
  | idle refused mine => exact mine ▸ List.prefix_append _ _
  | sending request mine =>
      simp only [mine, List.append_assoc]
      exact List.prefix_append _ _
  | waiting exchange found session before behind =>
      have mine := Exchange.dealingsOf_of_last found session behind
      rw [before] at mine
      simp [Link.dealingsOf, mine, Exchange.dealing]

theorem of_answersOf {past : List Dealing} {refused : List Request} {place : Nat}
    {answer : Except Error (List Message)}
    (found : (answersOf past refused)[place]? = some answer) :
    (∃ dealing, past[place]? = some dealing ∧ answer = .ok dealing.written) ∨
      past.length ≤ place ∧ refused ≠ [] ∧ answer = .error .engineStopped := by
  rw [answersOf, List.getElem?_append, List.length_map] at found
  split at found
  · rw [List.getElem?_map, Option.map_eq_some_iff] at found
    obtain ⟨dealing, there, rfl⟩ := found
    exact .inl ⟨dealing, there, rfl⟩
  · rename_i beyond
    rw [List.getElem?_map, Option.map_eq_some_iff] at found
    obtain ⟨request, there, rfl⟩ := found
    exact .inr ⟨Nat.le_of_not_lt beyond, List.ne_nil_of_mem (List.mem_of_getElem? there), rfl⟩

/-- An answer is what was written on a request that has ended, or that the engine has stopped. -/
theorem of_answer (kept : party.Kept link) {place : Nat} {answer : Except Error (List Message)}
    (found : party.answers[place]? = some answer) :
    (∃ dealing, (link.dealingsOf party.name)[place]? = some dealing ∧ dealing.stage = .ended ∧
      answer = .ok dealing.written) ∨
    (link.dealingsOf party.name).length ≤ place ∧ link.accepting = false ∧
      answer = .error .engineStopped := by
  cases kept with
  | idle refused mine ended closed =>
      rcases of_answersOf found with ⟨dealing, there, same⟩ | ⟨beyond, some, same⟩
      · exact .inl ⟨dealing, mine ▸ there, ended dealing (List.mem_of_getElem? there), same⟩
      · exact .inr ⟨mine ▸ beyond, closed some, same⟩
  | sending request mine ended closed =>
      rcases of_answersOf found with ⟨dealing, there, same⟩ | ⟨beyond, some, same⟩
      · exact .inl ⟨dealing, mine ▸ there, ended dealing (List.mem_of_getElem? there), same⟩
      · exact .inr ⟨mine ▸ beyond, closed some, same⟩
  | waiting exchange there session before behind ended =>
      rcases of_answersOf found with ⟨dealing, there', same⟩ | ⟨-, some, -⟩
      · have mine := Exchange.dealingsOf_of_last there session behind
        rw [before] at mine
        refine .inl ⟨dealing, ?_, ended dealing (List.mem_of_getElem? there'), same⟩
        rw [Link.dealingsOf, mine]
        exact List.getElem?_append_left (List.getElem?_eq_some_iff.mp there').1 ▸ there'
      · exact absurd rfl some

/-- What a session has heard is the beginning of what was written on its next request. -/
theorem heard_prefix (kept : party.Kept link) {index : Nat} {heard : List Message}
    (errand : party.errand = .waiting index heard) :
    ∃ dealing, (link.dealingsOf party.name)[party.answers.length]? = some dealing ∧
      heard <+: dealing.written := by
  cases kept with
  | idle => cases errand
  | sending => cases errand
  | waiting exchange found session before behind ended listening read part =>
      cases errand
      have mine := Exchange.dealingsOf_of_last found session behind
      rw [before] at mine
      refine ⟨exchange.dealing, ?_, part⟩
      simp [Link.dealingsOf, mine, answersOf]

end Party.Kept

namespace Traffic

variable {capacity : Nat} {traffic : Traffic}

/-- Sessions ask nothing that breaks its reading. -/
theorem whole_of_reaches (reached : Reaches (start capacity) traffic) :
    ∀ party ∈ traffic.parties, ∀ request ∈ party.asked, request.breaks = false := by
  induction reached with
  | refl => simp [start]
  | @tail before after reached step induction =>
      -- What a session has asked grows only where it takes up a request.
      have changed {number : Nat} {party party' : Party} (found : before.parties[number]? = some party)
          (whole : ∀ request ∈ party'.asked, request ∈ party.asked ∨ request.breaks = false) :
          ∀ other ∈ before.parties.set number party', ∀ request ∈ other.asked,
            request.breaks = false := by
        intro other member request asked
        rcases List.mem_or_eq_of_mem_set member with member | rfl
        · exact induction other member request asked
        · rcases whole request asked with old | whole
          · exact induction party (List.mem_of_getElem? found) request old
          · exact whole
      cases step with
      | connect fresh opened =>
          refine List.forall_mem_append.mpr ⟨induction, ?_⟩
          simp
      | ask request found idle held whole =>
          refine changed found fun other asked => ?_
          rcases List.mem_append.mp asked with old | new
          · exact .inl old
          · exact .inr (List.mem_singleton.mp new ▸ whole)
      | send found errand sent => exact changed found fun _ => .inl
      | refuse found errand refused => exact changed found fun _ => .inl
      | hear found errand read => exact changed found fun _ => .inl
      | conclude found errand read => exact changed found fun _ => .inl
      | _ => exact induction

/-- The requests taken are from the sessions. -/
theorem known_of_reaches (reached : Reaches (start capacity) traffic) {intake : Intake}
    (member : intake ∈ traffic.taken) :
    ∃ party ∈ traffic.parties, party.name = intake.session ∧ intake.request ∈ party.asked := by
  obtain ⟨waiting, serving⟩ := serving_of_reaches reached
  have asked : intake.request ∈ Intake.requestsOf traffic.taken intake.session := by
    refine List.mem_map_of_mem (List.mem_filter.mpr ⟨member, ?_⟩)
    simp
  have sent := (serving.requestsOf_prefix intake.session).subset asked
  obtain ⟨dealing, mine, request⟩ := List.mem_map.mp sent
  obtain ⟨there, session⟩ := List.mem_filter.mp mine
  obtain ⟨exchange, there', same⟩ := List.mem_map.mp there
  obtain ⟨party, known, name⟩ := (attended_of_reaches reached).known exchange there'
  have session' : dealing.session = intake.session := by simpa using session
  have name' : party.name = intake.session := by
    rw [← session', ← same]
    exact name
  refine ⟨party, known, name', ?_⟩
  exact ((attended_of_reaches reached).kept party known).prefix_asked.subset (name' ▸ sent)

/-- The engine takes nothing that breaks its reading. -/
theorem whole_of_taken (reached : Reaches (start capacity) traffic) :
    ∀ intake ∈ traffic.taken, intake.request.breaks = false := by
  intro intake member
  obtain ⟨party, known, -, asked⟩ := known_of_reaches reached member
  exact whole_of_reaches reached party known intake.request asked

theorem serves_of_reaches (reached : Reaches (start capacity) traffic) {party : Party}
    (member : party ∈ traffic.parties) : traffic.Serves party := by
  obtain ⟨waiting, serving⟩ := serving_of_reaches reached
  have kept := (attended_of_reaches reached).kept party member
  refine ⟨(serving.requestsOf_prefix party.name).trans kept.prefix_asked, kept.inTurn, ?_, ?_, ?_⟩
  · intro place messages answer reply found
    rcases kept.of_answer found with ⟨dealing, there, ended, rfl⟩ | ⟨beyond, -, -⟩
    · have told := (serving.tells there).1.whole ended
      rw [reply] at told
      exact ⟨congrArg Except.ok told,
        Intake.ne_nil_of_mem_repliesTo (whole_of_taken reached) (List.mem_of_getElem? reply)⟩
    · -- A session is not refused a request in front of one that was taken from it.
      have within := (List.getElem?_eq_some_iff.mp reply).1
      have sent := (serving.requestsOf_prefix party.name).length_le
      rw [Intake.length_repliesTo] at within
      rw [List.length_map] at sent
      omega
  · -- What was sent and not taken was written nothing; what was not sent was refused.
    intro place answer none found
    rcases kept.of_answer found with ⟨dealing, there, ended, rfl⟩ | ⟨-, closed, rfl⟩
    · obtain ⟨told, gone⟩ := serving.tells there
      have whole := told.whole ended
      rw [none] at whole
      refine ⟨?_, ?_, ?_⟩
      · rw [serving.accepting, gone ended none]
        rfl
      · rw [whole]
        rfl
      · rw [whole]
        rfl
    · exact ⟨closed, rfl, rfl⟩
  · intro index heard errand
    obtain ⟨dealing, there, part⟩ := kept.heard_prefix errand
    exact part.trans (serving.tells there).1.written

/-- The engine writes all that is left. -/
theorem reaches_written {index : Nat} {left : List Message}
    (phase : traffic.phase = .answering index left) :
    Reaches traffic
      { traffic with
        link := left.foldl (fun link message => (link.write index message).2) traffic.link
        phase := .answering index [] } := by
  induction left generalizing traffic with
  | nil => rw [← phase]; exact .refl
  | cons message left induction => exact .head (.write phase) (induction rfl)

/-- When an engine serves its link, it goes once around its loop. -/
theorem reaches_serveLink {engine : Engine} (same : engine.database = traffic.database)
    (stopping : traffic.stopping = false) (phase : traffic.phase = .looking) (now : Timestamp)
    {index : Nat} {link : Link} {exchange : Exchange}
    (accepted : traffic.link.accept = (.ready (some index), link))
    (found : link.exchanges[index]? = some exchange) (whole : exchange.request.breaks = false) :
    Reaches traffic
      { traffic with
        link := (engine.serveLink now traffic.link).2
        database := (engine.serveLink now traffic.link).1.database
        phase := .looking
        taken := traffic.taken ++ [⟨now, exchange.session, exchange.request⟩] } := by
  have on : (if traffic.stopping then Phase.closing else .taking) = .taking := by simp [stopping]
  have looked := Step.look phase
  rw [on] at looked
  have calm := Request.crashes_run whole now traffic.database
  simp only [Engine.serveLink, accepted, found, same, Engine.behind, calm]
  refine .head looked (.head (.take now rfl accepted found) ?_)
  exact (reaches_written rfl).tail (.finish rfl)

/-- Whatever turns sessions and the engine take, and whenever the engine is told to stop: its
database is that behind the requests that it has taken, run one after the other; every session is
answered accordingly; a batch has effect as a whole; and after the stop no request is taken but one
that the engine was about to take, while all sessions can come to an answer. -/
theorem serial_of_reaches (reached : Reaches (start capacity) traffic) :
    traffic.database = Intake.serialDatabase traffic.taken ∧
    (∀ intake ∈ traffic.taken, ∃ party ∈ traffic.parties, party.name = intake.session) ∧
    (traffic.parties.map (·.name)).Nodup ∧
    (∀ party ∈ traffic.parties, traffic.Serves party) ∧
    (∀ (place : Nat) (now : Timestamp) (session : String) (texts : List String),
      traffic.taken[place]? = some ⟨now, session, .batch texts⟩ →
      let before := Intake.serialDatabase (traffic.taken.take place)
      Intake.serialDatabase (traffic.taken.take (place + 1)) =
        match (before.runEach now texts).failure with
        | none => (before.runEach now texts).database
        | some _ => before) ∧
    (traffic.stopping = true →
      (∀ later, Reaches traffic later → later.taken = traffic.taken ∨
        traffic.phase = .taking ∧ ∃ intake, later.taken = traffic.taken ++ [intake]) ∧
      ∃ later, Reaches traffic later ∧ later.phase = .gone ∧
        later.parties.map (·.asked) = traffic.parties.map (·.asked) ∧
        ∀ party ∈ later.parties, party.errand = .none) := by
  obtain ⟨waiting, serving⟩ := serving_of_reaches reached
  refine ⟨serving.database, fun intake member => ?_, (attended_of_reaches reached).distinct,
    fun party => serves_of_reaches reached, ?_, ?_⟩
  · obtain ⟨party, known, name, -⟩ := known_of_reaches reached member
    exact ⟨party, known, name⟩
  · intro place now session texts found
    rw [List.take_add_one, found]
    exact Intake.serialDatabase_batch (traffic.taken.take place) now session
      (whole_of_taken reached _ (List.mem_of_getElem? found))
  · intro stopping
    refine ⟨fun later further => ?_, all_answered stopping reached⟩
    rcases (takesNoMore_of_stopping stopping further).2 with ⟨same, -⟩ | ⟨phase, -, more⟩
    · exact .inl same
    · exact .inr ⟨phase, more⟩

/-- Of two sessions one makes a table while the other waits for room in the queue.  Its request is in the
queue when the engine is told to stop, and so it comes to nothing. -/
theorem serial_of_two_sessions :
    let now := Date.atMidnight ⟨1970, 1, 1, by decide⟩
    let made := Request.script "CREATE TABLE t (a INTEGER)"
    let filled := Request.batch ["INSERT INTO t VALUES (1)"]
    ∃ full traffic, Reaches (start 1) full ∧ Reaches full traffic ∧
      (full.link.send 1 filled).1 = .pending ∧ traffic.stopping = true ∧
      traffic.taken = [⟨now, "a", made⟩] ∧
      traffic.parties.map (·.answers) = [[.ok [.result 0 1]], [.ok []]] ∧
      traffic.database = Intake.serialDatabase traffic.taken ∧
      ∀ party ∈ traffic.parties, traffic.Serves party := by
  intro now made filled
  let joined : Link := { capacity := 1, connections := [{ session := "a" }, { session := "b" }] }
  let asking : Exchange := { session := "a", request := made }
  let answered : Exchange := { asking with stage := .ended, written := [.result 0 1] }
  let queued : Link := { joined with exchanges := [asking], queue := [0] }
  let taken : Link := { joined with exchanges := [{ asking with stage := .taken }] }
  let served : Link := { joined with exchanges := [answered] }
  let both : Link :=
    { served with exchanges := [answered, { session := "b", request := filled }], queue := [1] }
  let first (errand : Errand) : Party := { name := "a", asked := [made], errand }
  let second (errand : Errand) : Party := { name := "b", asked := [filled], errand }
  let idle : Traffic := { link := joined, parties := [{ name := "a" }, { name := "b" }] }
  let full : Traffic :=
    { link := queued, parties := [first (.waiting 0 []), second (.sending filled)] }
  have together : Reaches (start 1) idle :=
    (Relation.ReflTransGen.single (Step.connect (by simp [start]) rfl)).tail
      (.connect (by simp [start]) rfl)
  have asked : Reaches idle { idle with parties := [first (.sending made), second (.sending filled)] } :=
    (Relation.ReflTransGen.single
      (@Step.ask idle 0 { name := "a" } made rfl rfl rfl (by decide +kernel))).tail
      (@Step.ask _ 1 { name := "b" } filled rfl rfl rfl (by decide +kernel))
  have sent : Reaches (start 1) full :=
    (together.trans asked).tail (@Step.send _ 0 0 (first (.sending made)) made queued rfl rfl rfl)
  let engine : Engine := { name := "engine" }
  have turn : (engine.serveLink now queued).2 = served := by decide +kernel
  have goes := @reaches_serveLink full engine rfl rfl rfl now 0 taken { asking with stage := .taken }
    rfl rfl (by decide +kernel)
  rw [show (engine.serveLink now full.link).2 = served from turn] at goes
  have follows := goes.tail (@Step.send _ 1 1 (second (.sending filled)) filled both rfl rfl rfl)
  -- The engine is told to stop before it looks again.
  have stopped := (((follows.tail .stop).tail (.look rfl)).tail (.close rfl)).tail (.drop rfl)
  have heard := stopped.tail (@Step.hear _ 0 0 _ [] (.result 0 1) _ rfl rfl rfl)
  have concluded := (heard.tail (@Step.conclude _ 0 0 _ [.result 0 1] _ rfl rfl rfl)).tail
    (@Step.conclude _ 1 1 _ [] _ rfl rfl rfl)
  obtain ⟨database, -, -, serves, -⟩ := serial_of_reaches (sent.trans concluded)
  exact ⟨full, _, sent, concluded, rfl, rfl, rfl, rfl, database, serves⟩

end Traffic
end SqlEngine
