import Mathlib.Data.List.Forall2
import SqlEngine.Link

/-!
# What calls do to a link

Each call that is met does one thing.  What sessions and the engine tell each other by a request is
its dealing; reading messages does not change it.
-/

namespace SqlEngine

/-- A request with what has come of it, whatever of it has been read. -/
structure Dealing where
  /-- The name of the session that asks. -/
  session : String
  /-- What it asks. -/
  request : Request
  /-- Where the request stands. -/
  stage : Stage
  /-- All messages written so far. -/
  written : List Message

/-- The dealing behind an exchange. -/
def Exchange.dealing (exchange : Exchange) : Dealing :=
  ⟨exchange.session, exchange.request, exchange.stage, exchange.written⟩

/-- The dealings of a session among exchanges. -/
def Exchange.dealingsOf (exchanges : List Exchange) (name : String) : List Dealing :=
  (exchanges.map dealing).filter (·.session = name)

theorem Exchange.dealingsOf_append (front back : List Exchange) (name : String) :
    dealingsOf (front ++ back) name = dealingsOf front name ++ dealingsOf back name := by
  simp [dealingsOf]

/-- The dealings of a session up to its last. -/
theorem Exchange.dealingsOf_of_last {exchanges : List Exchange} {index : Nat} {exchange : Exchange}
    {name : String} (found : exchanges[index]? = some exchange) (session : exchange.session = name)
    (behind : dealingsOf (exchanges.drop (index + 1)) name = []) :
    dealingsOf exchanges name = dealingsOf (exchanges.take index) name ++ [exchange.dealing] := by
  obtain ⟨inside, rfl⟩ := List.getElem?_eq_some_iff.mp found
  have split : exchanges =
      exchanges.take index ++ [exchanges[index]] ++ exchanges.drop (index + 1) := by
    rw [List.append_assoc, List.singleton_append, List.getElem_cons_drop, List.take_append_drop]
  have last : dealingsOf [exchanges[index]] name = [exchanges[index].dealing] := by
    simp [dealingsOf, dealing, session]
  calc dealingsOf exchanges name
    _ = dealingsOf
          (exchanges.take index ++ [exchanges[index]] ++ exchanges.drop (index + 1)) name :=
        congrArg (dealingsOf · name) split
    _ = dealingsOf (exchanges.take index) name ++ [exchanges[index].dealing] := by
        rw [dealingsOf_append, dealingsOf_append, last, behind, List.append_nil]

namespace Link

/-- The dealings on a link, by the numbers of their requests. -/
def dealings (link : Link) : List Dealing :=
  link.exchanges.map Exchange.dealing

/-- The dealings of a session, in the order in which it sent its requests. -/
def dealingsOf (link : Link) (name : String) : List Dealing :=
  Exchange.dealingsOf link.exchanges name

variable {link after : Link} {number index : Nat}

@[simp]
theorem length_dealings (link : Link) : link.dealings.length = link.exchanges.length :=
  List.length_map _

theorem dealingsOf_eq (link : Link) (name : String) :
    link.dealingsOf name = link.dealings.filter (·.session = name) :=
  rfl

theorem getElem?_dealings (link : Link) (number : Nat) :
    link.dealings[number]? = link.exchanges[number]?.map Exchange.dealing :=
  List.getElem?_map

theorem dealings_modify {change : Exchange → Exchange} {effect : Dealing → Dealing}
    (same : ∀ exchange, (change exchange).dealing = effect exchange.dealing) :
    (link.modify number change).dealings = link.dealings.modify number effect := by
  apply List.ext_getElem?
  intro place
  simp only [dealings, modify, List.getElem?_map, List.getElem?_modify]
  cases link.exchanges[place]? with
  | none => simp
  | some exchange => by_cases here : number = place <;> simp [here, same]

/-- A change to a request in the midst of others. -/
theorem dealings_modify_of_split {change : Exchange → Exchange} (effect : Dealing → Dealing)
    (same : ∀ exchange, (change exchange).dealing = effect exchange.dealing)
    {front back : List Dealing} {dealing : Dealing}
    (split : link.dealings = front ++ dealing :: back) (place : number = front.length) :
    (link.modify number change).dealings = front ++ effect dealing :: back := by
  rw [dealings_modify same, split, place]
  simp [List.modify_eq_take_cons_drop]

theorem dealings_modify_reader {change : Exchange → Exchange}
    (same : ∀ exchange, (change exchange).dealing = exchange.dealing) :
    (link.modify number change).dealings = link.dealings := by
  have kept : (link.modify number change).dealings = link.dealings.modify number id :=
    dealings_modify same
  simpa using kept

theorem getElem?_modify_self {exchange : Exchange}
    (found : link.exchanges[number]? = some exchange) (change : Exchange → Exchange) :
    (link.modify number change).exchanges[number]? = some (change exchange) := by
  simp [modify, found]

/-! ## Sessions -/

theorem connect_eq_ok {name : String}
    (met : link.connect name = (.ready (.ok number), after)) :
    link.accepting = true ∧
      after = { link with connections := link.connections ++ [{ session := name }] } := by
  unfold connect at met
  split at met
  · simp at met
  · split at met
    · simp at met
    · rename_i accepting
      obtain ⟨-, rfl⟩ := Prod.mk.inj met
      exact ⟨by simpa using accepting, rfl⟩

theorem connection?_eq_some {connection : Connection} :
    link.connection? number = some connection ↔
      link.connections[number]? = some connection ∧ connection.held = true := by
  simp [connection?, Option.filter_eq_some_iff]

/-- A request is put behind all others, if they leave room for it. -/
theorem send_eq_ok {request : Request}
    (met : link.send number request = (.ready (.ok index), after)) :
    ∃ connection, link.connection? number = some connection ∧ link.accepting = true ∧
      link.queue.length < link.capacity ∧ index = link.exchanges.length ∧
      after = { link with
        exchanges := link.exchanges ++ [{ session := connection.session, request }]
        queue := link.queue ++ [link.exchanges.length] } := by
  unfold send at met
  split at met
  · simp at met
  · rename_i session held found
    split at met
    · simp at met
    · rename_i accepting
      split at met
      · rename_i room
        simp only [Prod.mk.injEq, Poll.ready.injEq, Except.ok.injEq] at met
        obtain ⟨rfl, rfl⟩ := met
        exact ⟨_, found, by simpa using accepting, room, rfl, rfl⟩
      · simp at met

theorem send_eq_error {request : Request} {error : Error}
    (met : link.send number request = (.ready (.error error), after)) :
    link.accepting = false ∧ error = .engineStopped ∧ after = link := by
  unfold send at met
  split at met
  · simp at met
  · split at met
    · rename_i closed
      simp only [Prod.mk.injEq, Poll.ready.injEq, Except.error.injEq] at met
      exact ⟨by simpa using closed, met.1.symm, met.2.symm⟩
    · split at met <;> simp at met

/-- A message is read behind those read before. -/
theorem next_eq_some {message : Message}
    (met : link.next number = (.ready (some message), after)) :
    ∃ exchange, link.exchanges[number]? = some exchange ∧ exchange.listening = true ∧
      exchange.written[exchange.read]? = some message ∧
      after = link.modify number fun exchange => { exchange with read := exchange.read + 1 } := by
  unfold next at met
  split at met
  · rename_i exchange found
    split at met
    · simp at met
    · rename_i listening
      split at met
      · rename_i written
        simp only [Prod.mk.injEq, Poll.ready.injEq, Option.some.injEq] at met
        obtain ⟨rfl, rfl⟩ := met
        exact ⟨exchange, found, by simpa using listening, written, rfl⟩
      · split at met <;> simp at met
  · simp at met

/-- There is nothing more to read when all is read and nothing can come any more. -/
theorem next_eq_none (met : link.next number = (.ready none, after)) :
    ∃ exchange, link.exchanges[number]? = some exchange ∧ exchange.stage = .ended ∧
      exchange.written.length ≤ exchange.read ∧ after = link := by
  unfold next at met
  split at met
  · rename_i exchange found
    split at met
    · simp at met
    · split at met
      · simp at met
      · rename_i written
        split at met
        · rename_i ended
          exact ⟨exchange, found, ended, List.getElem?_eq_none_iff.mp written,
            (Prod.mk.inj met).2.symm⟩
        · simp at met
  · simp at met

/-! ## The engine -/

/-- The request that is taken is the first of those that wait. -/
theorem accept_eq_some (met : link.accept = (.ready (some index), after)) :
    ∃ queue, link.queue = index :: queue ∧
      after = { link with queue }.modify index fun exchange =>
        { exchange with stage := .taken } := by
  unfold accept at met
  split at met
  · simp at met
  · split at met
    · rename_i first queue split
      simp only [Prod.mk.injEq, Poll.ready.injEq, Option.some.injEq] at met
      obtain ⟨rfl, rfl⟩ := met
      exact ⟨queue, split, rfl⟩
    · split at met <;> simp at met

theorem write_eq {exchange : Exchange} (found : link.exchanges[number]? = some exchange)
    (taken : exchange.stage = .taken) (message : Message) :
    (link.write number message).2 = link.modify number fun exchange =>
      { exchange with written := exchange.written ++ [message] } := by
  obtain ⟨session, request, stage, written, read, listening⟩ := exchange
  obtain rfl : stage = .taken := taken
  simp [write, found]

theorem close_eq (held : link.engineEnd = true) :
    link.close.2 = { link with accepting := false } := by
  simp [close, held]

/-- A request in the midst of others. -/
theorem exchange_of_split {front back : List Dealing} {dealing : Dealing}
    (split : link.dealings = front ++ dealing :: back) (place : number = front.length) :
    ∃ exchange, link.exchanges[number]? = some exchange ∧ exchange.dealing = dealing := by
  have there : link.dealings[number]? = some dealing := by simp [split, place]
  rw [getElem?_dealings, Option.map_eq_some_iff] at there
  exact there

end Link

/-! ## What the engine does to a request -/

/-- What the engine can make of an exchange: it writes behind what is written, and what has ended is
as it is.  What the session has read is not its business. -/
structure Exchange.Grows (before after : Exchange) : Prop where
  /-- The session is the same. -/
  session : after.session = before.session
  /-- The request is the same. -/
  request : after.request = before.request
  /-- As much is read as before. -/
  read : after.read = before.read
  /-- The session listens as before. -/
  listening : after.listening = before.listening
  /-- Nothing that is written changes. -/
  written : before.written <+: after.written
  /-- Nothing happens any more to a request that has ended. -/
  ended : before.stage = .ended → after = before

theorem Exchange.Grows.refl (exchange : Exchange) : exchange.Grows exchange :=
  ⟨rfl, rfl, rfl, rfl, List.prefix_rfl, fun _ => rfl⟩

theorem Exchange.Grows.trans {first second third : Exchange} (front : first.Grows second)
    (back : second.Grows third) : first.Grows third where
  session := back.session.trans front.session
  request := back.request.trans front.request
  read := back.read.trans front.read
  listening := back.listening.trans front.listening
  written := front.written.trans back.written
  ended past := by
    have same := front.ended past
    rw [same] at back
    exact back.ended past

/-- What the engine can make of a link. -/
structure Link.Grows (before after : Link) : Prop where
  /-- Every exchange grows, and none is added. -/
  exchanges : List.Forall₂ Exchange.Grows before.exchanges after.exchanges
  /-- A link that has been closed stays closed. -/
  closed : before.accepting = false → after.accepting = false

theorem Link.Grows.refl (link : Link) : link.Grows link :=
  ⟨List.forall₂_same.mpr fun exchange _ => .refl exchange, id⟩

/-- Growth of all exchanges goes on. -/
theorem Exchange.forall₂_grows_trans {first second third : List Exchange}
    (front : List.Forall₂ Grows first second) (back : List.Forall₂ Grows second third) :
    List.Forall₂ Grows first third := by
  induction front generalizing third with
  | nil => exact back
  | cons head _ induction =>
      obtain ⟨last, rest, head', tail', rfl⟩ := List.forall₂_cons_left_iff.mp back
      exact .cons (head.trans head') (induction tail')

theorem Link.Grows.trans {first second third : Link} (front : first.Grows second)
    (back : second.Grows third) : first.Grows third where
  exchanges := Exchange.forall₂_grows_trans front.exchanges back.exchanges
  closed := back.closed ∘ front.closed

theorem Link.grows_modify {link : Link} {number : Nat} {change : Exchange → Exchange}
    (grows : ∀ exchange, link.exchanges[number]? = some exchange →
      exchange.Grows (change exchange)) :
    link.Grows (link.modify number change) where
  exchanges := by
    rw [List.forall₂_iff_get]
    refine ⟨by simp [modify], fun place inside inside' => ?_⟩
    simp only [modify, List.get_eq_getElem, List.getElem_modify]
    split
    · rename_i here
      subst here
      exact grows _ (List.getElem?_eq_getElem inside)
    · exact .refl _
  closed := id

theorem Link.grows_finish (link : Link) (number : Nat) : link.Grows (link.finish number) :=
  grows_modify fun exchange _ =>
    ⟨rfl, rfl, rfl, rfl, List.prefix_rfl, fun ended => by rw [← ended]⟩

theorem Link.connections_finishAll (link : Link) (queue : List Nat) :
    (queue.foldl finish link).connections = link.connections := by
  induction queue generalizing link with
  | nil => rfl
  | cons number queue induction => exact induction (link.finish number)

theorem Link.grows_finishAll (link : Link) (queue : List Nat) :
    link.Grows (queue.foldl finish link) := by
  induction queue generalizing link with
  | nil => exact .refl link
  | cons number queue induction => exact (grows_finish link number).trans (induction _)

theorem Exchange.sessions_of_grows {before after : List Exchange}
    (grows : List.Forall₂ Grows before after) :
    after.map (·.session) = before.map (·.session) := by
  induction grows with
  | nil => rfl
  | cons head _ induction => rw [List.map_cons, List.map_cons, head.session, induction]

/-- What has ended of a session does not change while nothing else of it is there. -/
theorem Exchange.dealingsOf_of_grows {before after : List Exchange}
    (grows : List.Forall₂ Grows before after) {name : String}
    (ended : ∀ mine ∈ dealingsOf before name, mine.stage = .ended) :
    dealingsOf after name = dealingsOf before name := by
  induction grows with
  | nil => rfl
  | @cons exchange exchange' _ _ head tail induction =>
      simp only [dealingsOf, List.map_cons, List.filter_cons] at ended induction ⊢
      by_cases mine : exchange.session = name
      · have same : exchange' = exchange := by
          apply head.ended
          exact ended exchange.dealing (by simp [Exchange.dealing, mine])
        have rest := induction fun other member => ended other (by
          simp only [Exchange.dealing, mine, decide_true, if_true]
          exact List.mem_cons_of_mem _ member)
        rw [same, rest]
      · have mine' : exchange'.session ≠ name := by rwa [head.session]
        have rest := induction fun other member => ended other (by
          simpa [Exchange.dealing, mine] using member)
        simpa [Exchange.dealing, mine, mine'] using rest

end SqlEngine
