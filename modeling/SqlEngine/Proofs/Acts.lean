import SqlEngine.Proofs.Links

/-!
# Calls on a link

Sessions and an engine use a link in any order, and let go of its ends, of connections, of writers
and of streams of messages when they like.  A call that would have to wait is given up, and may be
made again.
-/

namespace SqlEngine
namespace Link

/-- A call on a link, or on something that came of another call. -/
inductive Act where
  /-- Makes a connection for a session. -/
  | connect (session : String)
  /-- Sends a request on a connection. -/
  | send (connection : Nat) (request : Request)
  /-- Takes the next request. -/
  | accept
  /-- Writes a message back to a request. -/
  | write (number : Nat) (message : Message)
  /-- Reads the next message written back to a request. -/
  | next (number : Nat)
  /-- Refuses further requests. -/
  | close
  /-- Lets go of the end of the engine. -/
  | dropEngine
  /-- Lets go of the end that makes connections; of several that share it, of the last. -/
  | dropSessions
  /-- Lets go of a connection. -/
  | dropConnection (number : Nat)
  /-- Lets go of what writes messages back to a request. -/
  | dropWriter (number : Nat)
  /-- Lets go of the stream of messages written back to a request. -/
  | dropReplies (number : Nat)
  deriving DecidableEq

/-- What comes of a call. -/
inductive Outcome where
  /-- It is done. -/
  | done
  /-- It would have to wait, and is given up. -/
  | pending
  /-- It is refused. -/
  | refused (error : Error)
  /-- There is a new connection, or a new request with a stream of messages. -/
  | made (number : Nat)
  /-- A request was taken, and messages can be written back to it. -/
  | accepted (number : Nat) (session : String) (request : Request)
  /-- A message was read. -/
  | read (message : Message)
  /-- Nothing comes any more. -/
  | noMore
  deriving DecidableEq

/-- A call with what came of it. -/
abbrev Event := Act × Outcome

namespace Outcome

/-- What comes of making something. -/
def ofNumber : Except Error Nat → Outcome
  | .ok number => made number
  | .error error => refused error

/-- What comes of reading. -/
def ofMessage : Option Message → Outcome
  | some message => read message
  | none => noMore

/-- What comes of a call that is answered at once, if there is still what it is made on. -/
def ofPoll {α : Type} (outcome : α → Outcome) : Poll α × Link → Option (Outcome × Link)
  | (.ready value, link) => some (outcome value, link)
  | (.pending, link) => some (pending, link)
  | (.gone, _) => none

end Outcome

/-- What comes of a call, and the link behind it, if there is still what the call is made on. -/
def perform (link : Link) : Act → Option (Outcome × Link)
  | .connect session => Outcome.ofPoll .ofNumber (link.connect session)
  | .send connection request => Outcome.ofPoll .ofNumber (link.send connection request)
  | .accept =>
    match link.accept with
    | (.ready (some number), after) =>
      link.exchanges[number]?.map fun exchange =>
        (.accepted number exchange.session exchange.request, after)
    | (.ready none, after) => some (.noMore, after)
    | (.pending, after) => some (.pending, after)
    | (.gone, _) => none
  | .write number message => Outcome.ofPoll (fun _ => .done) (link.write number message)
  | .next number => Outcome.ofPoll .ofMessage (link.next number)
  | .close => Outcome.ofPoll (fun _ => .done) link.close
  | .dropEngine => if link.engineEnd then some (.done, link.dropEngine) else none
  | .dropSessions => if link.sessionEnd then some (.done, link.dropSessions) else none
  | .dropConnection number =>
    (link.connection? number).map fun _ => (.done, link.dropConnection number)
  | .dropWriter number =>
    (link.exchanges[number]?.filter (·.stage = .taken)).map fun _ => (.done, link.finish number)
  | .dropReplies number =>
    (link.exchanges[number]?.filter (·.listening)).map fun _ => (.done, link.dropReplies number)

/-- Makes calls one after the other, and records what comes of them; a call on what is not there
cannot be made, and is left out. -/
def record (link : Link) : List Act → List Event × Link
  | [] => ([], link)
  | act :: acts =>
    match link.perform act with
    | some (outcome, after) => ((act, outcome) :: (after.record acts).1, (after.record acts).2)
    | none => link.record acts

/-! ## What a call does -/

/-- All that a call can come to and do. -/
inductive Moves (link : Link) : Act → Outcome → Link → Prop where
  /-- There is a new connection. -/
  | connect {session : String} (accepting : link.accepting = true) :
      Moves link (.connect session) (.made link.connections.length)
        { link with connections := link.connections ++ [{ session }] }
  /-- A request is put into the queue. -/
  | send {connection : Nat} {request : Request} {sender : Connection}
      (found : link.connections[connection]? = some sender) (accepting : link.accepting = true)
      (room : link.queue.length < link.capacity) :
      Moves link (.send connection request) (.made link.exchanges.length)
        { link with
          exchanges := link.exchanges ++ [{ session := sender.session, request }]
          queue := link.queue ++ [link.exchanges.length] }
  /-- The first request of the queue is taken. -/
  | accept {number : Nat} {queue : List Nat} {exchange : Exchange} (held : link.engineEnd = true)
      (split : link.queue = number :: queue) (found : link.exchanges[number]? = some exchange) :
      Moves link .accept (.accepted number exchange.session exchange.request)
        ({ link with queue }.modify number fun exchange => { exchange with stage := .taken })
  /-- A message is written behind others. -/
  | write {number : Nat} {message : Message} {exchange : Exchange}
      (found : link.exchanges[number]? = some exchange) (taken : exchange.stage = .taken) :
      Moves link (.write number message) .done
        (link.modify number fun exchange =>
          { exchange with written := exchange.written ++ [message] })
  /-- The next message is read. -/
  | read {number : Nat} {message : Message} {exchange : Exchange}
      (found : link.exchanges[number]? = some exchange)
      (there : exchange.written[exchange.read]? = some message) :
      Moves link (.next number) (.read message)
        (link.modify number fun exchange => { exchange with read := exchange.read + 1 })
  /-- All messages are read, and no further can come. -/
  | noMore {number : Nat} {exchange : Exchange} (found : link.exchanges[number]? = some exchange)
      (ended : exchange.stage = .ended) (all : exchange.written.length ≤ exchange.read) :
      Moves link (.next number) .noMore link
  /-- There is no request, and none can come. -/
  | dry : Moves link .accept .noMore link
  /-- The link is shut. -/
  | refused {act : Act} (shut : link.accepting = false) :
      Moves link act (.refused .engineStopped) link
  /-- The call would have to wait. -/
  | pending {act : Act} : Moves link act .pending link
  /-- The link is closed. -/
  | close (held : link.engineEnd = true) : Moves link .close .done { link with accepting := false }
  /-- The engine has let go. -/
  | dropEngine (held : link.engineEnd = true) : Moves link .dropEngine .done link.dropEngine
  /-- No further connection can be made. -/
  | dropSessions : Moves link .dropSessions .done link.dropSessions
  /-- A session has let go of its connection. -/
  | dropConnection {number : Nat} :
      Moves link (.dropConnection number) .done (link.dropConnection number)
  /-- The engine is done with a request. -/
  | dropWriter {number : Nat} {exchange : Exchange}
      (found : link.exchanges[number]? = some exchange) (taken : exchange.stage = .taken) :
      Moves link (.dropWriter number) .done (link.finish number)
  /-- Nobody listens to the messages of a request any more. -/
  | dropReplies {number : Nat} {exchange : Exchange}
      (found : link.exchanges[number]? = some exchange) :
      Moves link (.dropReplies number) .done (link.dropReplies number)

variable {link after : Link} {act : Act} {outcome : Outcome} {number : Nat}

theorem Moves.of_connect {session : String}
    (made : link.perform (.connect session) = some (outcome, after)) :
    link.Moves (.connect session) outcome after := by
  simp only [perform, Link.connect] at made
  split at made
  · contradiction
  · split at made
    · rename_i shut
      cases made
      exact .refused (by simpa using shut)
    · rename_i accepting
      cases made
      exact .connect (by simpa using accepting)

theorem Moves.of_send {connection : Nat} {request : Request}
    (made : link.perform (.send connection request) = some (outcome, after)) :
    link.Moves (.send connection request) outcome after := by
  simp only [perform, Link.send] at made
  split at made
  · contradiction
  · rename_i session held found
    split at made
    · rename_i shut
      cases made
      exact .refused (by simpa using shut)
    · rename_i accepting
      split at made
      · rename_i room
        cases made
        exact .send (connection?_eq_some.mp found).1 (by simpa using accepting) room
      · cases made
        exact .pending

theorem eq_of_accept {answer : Poll (Option Nat)} (waits : answer = .pending ∨ answer = .ready none)
    (met : link.accept = (answer, after)) : after = link := by
  unfold accept at met
  split at met
  · exact (Prod.mk.inj met).2.symm
  · split at met
    · obtain ⟨rfl, -⟩ := Prod.mk.inj met
      simp at waits
    · exact (Prod.mk.inj met).2.symm

theorem Moves.of_accept (made : link.perform .accept = some (outcome, after)) :
    link.Moves .accept outcome after := by
  cases held : link.engineEnd with
  | false => simp [perform, Link.accept, held] at made
  | true =>
      simp only [perform] at made
      split at made
      · rename_i met
        obtain ⟨queue, split, rfl⟩ := accept_eq_some met
        obtain ⟨exchange, found, same⟩ := Option.map_eq_some_iff.mp made
        cases same
        exact .accept held split found
      · rename_i met
        cases made
        rw [eq_of_accept (.inr rfl) met]
        exact .dry
      · rename_i met
        cases made
        rw [eq_of_accept (.inl rfl) met]
        exact .pending
      · contradiction

theorem Moves.of_write {message : Message}
    (made : link.perform (.write number message) = some (outcome, after)) :
    link.Moves (.write number message) outcome after := by
  simp only [perform, Link.write] at made
  split at made
  · rename_i found
    cases made
    exact .write found rfl
  · contradiction

theorem Moves.of_next (made : link.perform (.next number) = some (outcome, after)) :
    link.Moves (.next number) outcome after := by
  simp only [perform, Link.next] at made
  split at made
  · rename_i exchange found
    split at made
    · contradiction
    · split at made
      · rename_i there
        cases made
        exact .read found there
      · rename_i nothing
        split at made
        · rename_i ended
          cases made
          exact .noMore found ended (List.getElem?_eq_none_iff.mp nothing)
        · cases made
          exact .pending
  · contradiction

/-- There is nothing else that a call can come to and do. -/
theorem moves_of_perform (made : link.perform act = some (outcome, after)) :
    link.Moves act outcome after := by
  cases act with
  | connect session => exact .of_connect made
  | send connection request => exact .of_send made
  | accept => exact .of_accept made
  | write number message => exact .of_write made
  | next number => exact .of_next made
  | close =>
      simp only [perform, Link.close] at made
      split at made
      · rename_i held
        cases made
        exact .close held
      · contradiction
  | dropEngine =>
      simp only [perform] at made
      split at made
      · rename_i held
        cases made
        exact .dropEngine held
      · contradiction
  | dropSessions =>
      simp only [perform] at made
      split at made
      · cases made
        exact .dropSessions
      · contradiction
  | dropConnection number =>
      obtain ⟨_, -, same⟩ := Option.map_eq_some_iff.mp made
      cases same
      exact .dropConnection
  | dropWriter number =>
      obtain ⟨exchange, found, same⟩ := Option.map_eq_some_iff.mp made
      cases same
      obtain ⟨found, taken⟩ := Option.filter_eq_some_iff.mp found
      exact .dropWriter found (by simpa using taken)
  | dropReplies number =>
      obtain ⟨exchange, found, same⟩ := Option.map_eq_some_iff.mp made
      cases same
      exact .dropReplies (Option.filter_eq_some_iff.mp found).1

/-- A call that is refused or has to wait leaves nothing behind. -/
theorem eq_of_unmet (made : link.perform act = some (outcome, after))
    (unmet : (∃ error, outcome = .refused error) ∨ outcome = .pending) : after = link := by
  cases moves_of_perform made with
  | refused => rfl
  | pending => rfl
  | dry | noMore => rfl
  | _ => simp at unmet

/-- Sessions ask by making connections and sending requests. -/
def Act.Asks (act : Act) : Prop :=
  (∃ session, act = .connect session) ∨ ∃ connection request, act = .send connection request

theorem refused_of_shut (asks : act.Asks) (made : link.perform act = some (outcome, after))
    (shut : link.accepting = false) : outcome = .refused .engineStopped := by
  rcases asks with ⟨session, rfl⟩ | ⟨connection, request, rfl⟩
  · simp only [perform, Link.connect, shut] at made
    split at made
    · contradiction
    · cases made
      rfl
  · simp only [perform, Link.send, shut] at made
    split at made
    · contradiction
    · cases made
      rfl

theorem shut_of_refused {error : Error} (made : link.perform act = some (.refused error, after)) :
    link.accepting = false := by
  cases moves_of_perform made with
  | refused shut => exact shut

end Link
end SqlEngine
