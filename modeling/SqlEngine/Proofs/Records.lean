import Mathlib.Data.List.Infix
import SqlEngine.Proofs.Acts

/-!
# What calls on a link tell

What was called and what came of it tells all that matters of a link: which requests were sent and
taken, and which messages were written and read for each.  Every call keeps this so.
-/

namespace SqlEngine
namespace Link

variable {link after : Link} {act : Act} {outcome : Outcome} {number : Nat}

/-! ## What the calls tell -/

namespace Event

/-- The name of a session that a new connection is for, with the number of the connection. -/
def connected? : Event → Option (String × Nat)
  | (.connect session, .made number) => some (session, number)
  | _ => none

/-- A request that was sent and the connection that it was sent on, with the number of the
request. -/
def sent? : Event → Option ((Nat × Request) × Nat)
  | (.send connection request, .made number) => some ((connection, request), number)
  | _ => none

/-- A request that was taken and the name of the session that it came with, with its number. -/
def accepted? : Event → Option ((Option String × Request) × Nat)
  | (.accept, .accepted number session request) => some ((some session, request), number)
  | _ => none

/-- The request that a call does something to or tells something of, if it is one that was sent
before. -/
def request? : Event → Option Nat
  | (.accept, .accepted number _ _) => some number
  | (.write number _, .done) => some number
  | (.next number, .read _) => some number
  | (.next number, .noMore) => some number
  | (.dropWriter number, .done) => some number
  | (.dropReplies number, .done) => some number
  | _ => none

/-- A message that was written. -/
def written? : Event → Option Message
  | (.write _ message, .done) => some message
  | _ => none

theorem request?_of_accepted? {event : Event} {entry : (Option String × Request) × Nat}
    (taken : accepted? event = some entry) : request? event = some entry.2 := by
  unfold accepted? at taken
  split at taken
  · cases taken
    rfl
  · contradiction

/-- A message that was read. -/
def heard? : Event → Option Message
  | (.next _, .read message) => some message
  | _ => none

end Event

/-- The names of the sessions that connections were made for, with the numbers of the
connections. -/
def connectedIn (events : List Event) : List (String × Nat) :=
  events.filterMap Event.connected?

/-- The requests that were sent, each with the name that its connection was made with and its
number. -/
def askedIn (events : List Event) : List ((Option String × Request) × Nat) :=
  (events.filterMap Event.sent?).map fun ((connection, request), number) =>
    (((connectedIn events)[connection]?.map (·.1), request), number)

/-- The requests that were taken, each with the name that it came with and its number. -/
def acceptedIn (events : List Event) : List ((Option String × Request) × Nat) :=
  events.filterMap Event.accepted?

/-- The messages written back to a request. -/
def writtenIn (events : List Event) (number : Nat) : List Message :=
  (events.filter (·.request? = some number)).filterMap Event.written?

/-- The messages read of those written back to a request. -/
def heardIn (events : List Event) (number : Nat) : List Message :=
  (events.filter (·.request? = some number)).filterMap Event.heard?

/-- Whether a request is over: what writes to it is gone, or was lost with the end of the engine
before the request was taken. -/
def IsOver (events : List Event) (number : Nat) : Prop :=
  (.dropWriter number, .done) ∈ events ∨
    (.dropEngine, .done) ∈ events ∧ number ∉ (acceptedIn events).map (·.2)

section Concat

variable (events : List Event) (event : Event)

theorem filterMap_concat {α : Type} (part : Event → Option α) :
    (events ++ [event]).filterMap part = events.filterMap part ++ (part event).toList := by
  cases found : part event <;> simp [found]

theorem connectedIn_concat :
    connectedIn (events ++ [event]) = connectedIn events ++ event.connected?.toList :=
  filterMap_concat events event _

theorem acceptedIn_concat :
    acceptedIn (events ++ [event]) = acceptedIn events ++ event.accepted?.toList :=
  filterMap_concat events event _

theorem writtenIn_concat (number : Nat) : writtenIn (events ++ [event]) number =
    writtenIn events number ++
      if event.request? = some number then event.written?.toList else [] := by
  by_cases about : event.request? = some number
  · rw [writtenIn, List.filter_append, List.filter_cons_of_pos (by simpa using about),
      List.filter_nil, filterMap_concat, if_pos about, writtenIn]
  · simp [writtenIn, about]

theorem heardIn_concat (number : Nat) : heardIn (events ++ [event]) number =
    heardIn events number ++ if event.request? = some number then event.heard?.toList else [] := by
  by_cases about : event.request? = some number
  · rw [heardIn, List.filter_append, List.filter_cons_of_pos (by simpa using about),
      List.filter_nil, filterMap_concat, if_pos about, heardIn]
  · simp [heardIn, about]

end Concat

/-- Whether calls tell what there is of the request of a number. -/
structure Tells (events : List Event) (number : Nat) (exchange : Exchange) : Prop where
  /-- All messages were written to it. -/
  written : exchange.written = writtenIn events number
  /-- Some of them were read, in order. -/
  heard : heardIn events number = exchange.written.take exchange.read
  /-- No more were read than there are. -/
  within : exchange.read ≤ exchange.written.length
  /-- It waits if it was not taken while there is an engine. -/
  queued : (.dropEngine, .done) ∉ events → number ∉ (acceptedIn events).map (·.2) →
    exchange.stage = .queued
  /-- Nothing is written to it, nor can be, before it is taken. -/
  untaken : number ∉ (acceptedIn events).map (·.2) →
    exchange.stage ≠ .taken ∧ exchange.written = []
  /-- Nothing can be written to it any more only if it is over. -/
  ended : exchange.stage = .ended → IsOver events number
  /-- Once a reader was told that nothing comes any more, nothing does. -/
  told : (.next number, .noMore) ∈ events →
    exchange.stage = .ended ∧ exchange.read = exchange.written.length

/-- Whether calls tell what there is on a link. -/
structure Records (capacity : Nat) (events : List Event) (link : Link) : Prop where
  /-- There is room for so many requests. -/
  capacity : link.capacity = max capacity 1
  /-- No more than that wait. -/
  room : link.queue.length ≤ link.capacity
  /-- Requests are refused once the link was closed or the engine has let go. -/
  accepting : link.accepting = true ↔ (.close, .done) ∉ events ∧ (.dropEngine, .done) ∉ events
  /-- The end of the engine is held until it lets go. -/
  held : link.engineEnd = true ↔ (.dropEngine, .done) ∉ events
  /-- The connections are those that were made. -/
  connected : connectedIn events = (link.connections.map (·.session)).zipIdx
  /-- The requests are those that were sent, under the names of their connections. -/
  asked : askedIn events = (link.exchanges.map fun sent => (some sent.session, sent.request)).zipIdx
  /-- The first of them were taken. -/
  accepted : acceptedIn events <+: askedIn events
  /-- The others wait. -/
  queue : link.engineEnd = true →
    (acceptedIn events).map (·.2) ++ link.queue = List.range link.exchanges.length
  /-- What was written and read is told of each request. -/
  tells : ∀ number exchange, link.exchanges[number]? = some exchange →
    Tells events number exchange
  /-- No call was about a request before it was sent. -/
  known : ∀ event ∈ events, ∀ number, event.request? = some number → number < link.exchanges.length

/-- Calls that are not about a request make no difference to it, but for the engine letting go. -/
theorem Tells.of_other {events : List Event} {event : Event} {exchange : Exchange}
    (tells : Tells events number exchange) (other : event.request? ≠ some number)
    (kept : event ≠ (.dropEngine, .done)) : Tells (events ++ [event]) number exchange := by
  have accepted_iff : number ∈ (acceptedIn (events ++ [event])).map (·.2) ↔
      number ∈ (acceptedIn events).map (·.2) := by
    rw [acceptedIn_concat, List.map_append, List.mem_append, or_iff_left]
    intro member
    obtain ⟨entry, taken, rfl⟩ := List.mem_map.mp member
    exact other (Event.request?_of_accepted? (Option.mem_toList.mp taken))
  have mem_iff {act : Act} {outcome : Outcome} (different : event ≠ (act, outcome)) :
      (act, outcome) ∈ events ++ [event] ↔ (act, outcome) ∈ events := by
    simp [different.symm]
  have dropped : event ≠ (.dropWriter number, .done) := by
    rintro rfl
    exact other rfl
  have finished : event ≠ (.next number, .noMore) := by
    rintro rfl
    exact other rfl
  constructor
  case written => rw [writtenIn_concat, if_neg other, List.append_nil, tells.written]
  case heard => rw [heardIn_concat, if_neg other, List.append_nil, tells.heard]
  case within => exact tells.within
  case queued =>
    rw [mem_iff kept, accepted_iff]
    exact tells.queued
  case untaken =>
    rw [accepted_iff]
    exact tells.untaken
  case ended =>
    rw [IsOver, mem_iff dropped, mem_iff kept, accepted_iff]
    exact tells.ended
  case told =>
    rw [mem_iff finished]
    exact tells.told

/-! ## One call after the other -/

/-- Whether a call makes no connection, sends and takes no request, and shuts nothing. -/
structure Event.IsQuiet (event : Event) : Prop where
  /-- It makes no connection. -/
  connected : event.connected? = none
  /-- It sends no request. -/
  sent : event.sent? = none
  /-- It takes no request. -/
  accepted : event.accepted? = none
  /-- It does not close the link. -/
  not_close : event ≠ (.close, .done)
  /-- It does not let go of the end of the engine. -/
  not_dropEngine : event ≠ (.dropEngine, .done)

/-- A call that is refused or has to wait does nothing. -/
theorem Event.isQuiet_of_unmet (act : Act)
    (unmet : (∃ error, outcome = .refused error) ∨ outcome = .pending) :
    Event.IsQuiet (act, outcome) ∧ Event.request? (act, outcome) = none := by
  rcases unmet with ⟨error, rfl⟩ | rfl
  · exact ⟨⟨by cases act <;> rfl, by cases act <;> rfl, by cases act <;> rfl, by simp, by simp⟩,
      by cases act <;> rfl⟩
  · exact ⟨⟨by cases act <;> rfl, by cases act <;> rfl, by cases act <;> rfl, by simp, by simp⟩,
      by cases act <;> rfl⟩

/-- Whether two links differ at most in who holds or has read something. -/
structure Alike (link after : Link) : Prop where
  /-- There is room for as many requests. -/
  capacity : after.capacity = link.capacity
  /-- Requests are refused on both or on none. -/
  accepting : after.accepting = link.accepting
  /-- The end of the engine is held on both or on none. -/
  engineEnd : after.engineEnd = link.engineEnd
  /-- The same requests wait. -/
  queue : after.queue = link.queue
  /-- The connections are for the same sessions. -/
  sessions : after.connections.map (·.session) = link.connections.map (·.session)
  /-- The requests are the same. -/
  asked : after.exchanges.map (fun sent => (some sent.session, sent.request)) =
    link.exchanges.map fun sent => (some sent.session, sent.request)

theorem Alike.refl (link : Link) : link.Alike link :=
  ⟨rfl, rfl, rfl, rfl, rfl, rfl⟩

theorem Alike.length_eq (same : link.Alike after) :
    after.exchanges.length = link.exchanges.length := by
  simpa using congrArg List.length same.asked

theorem sessions_dropConnection (link : Link) (number : Nat) :
    (link.dropConnection number).connections.map (·.session) =
      link.connections.map (·.session) := by
  refine List.ext_getElem (by simp [dropConnection]) fun place inside inside' => ?_
  simp only [dropConnection, List.getElem_map, List.getElem_modify]
  split <;> rfl

theorem getElem?_modify_of_ne {place : Nat} (other : number ≠ place)
    (change : Exchange → Exchange) :
    (link.modify number change).exchanges[place]? = link.exchanges[place]? := by
  simp [modify, other]

theorem getElem?_finishAll (link : Link) (queue : List Nat) (number : Nat) :
    (queue.foldl finish link).exchanges[number]? = link.exchanges[number]?.map fun exchange =>
      if number ∈ queue then { exchange with stage := .ended } else exchange := by
  induction queue generalizing link with
  | nil => simp
  | cons first queue induction =>
      rw [List.foldl_cons, induction]
      by_cases here : first = number
      · subst here
        cases found : link.exchanges[first]? with
        | none => simp [finish, modify, found]
        | some exchange => simp [finish, getElem?_modify_self found]
      · rw [finish, getElem?_modify_of_ne here]
        simp [Ne.symm here]

theorem capacity_finishAll (link : Link) (queue : List Nat) :
    (queue.foldl finish link).capacity = link.capacity := by
  induction queue generalizing link with
  | nil => rfl
  | cons number queue induction => exact induction (link.finish number)

theorem alike_modify {change : Exchange → Exchange}
    (same : ∀ exchange, (change exchange).session = exchange.session ∧
      (change exchange).request = exchange.request) : link.Alike (link.modify number change) where
  capacity := rfl
  accepting := rfl
  engineEnd := rfl
  queue := rfl
  sessions := rfl
  asked := by
    refine List.ext_getElem (by simp [modify]) fun place inside inside' => ?_
    simp only [modify, List.getElem_map, List.getElem_modify]
    split <;> simp [same]

variable {events : List Event} {event : Event} {capacity : Nat}

theorem writtenIn_concat_of_mute (mute : event.written? = none) (number : Nat) :
    writtenIn (events ++ [event]) number = writtenIn events number := by
  simp [writtenIn_concat, mute]

theorem heardIn_concat_of_mute (mute : event.heard? = none) (number : Nat) :
    heardIn (events ++ [event]) number = heardIn events number := by
  simp [heardIn_concat, mute]

theorem askedIn_concat_of_quiet (connected : event.connected? = none) (sent : event.sent? = none) :
    askedIn (events ++ [event]) = askedIn events := by
  simp [askedIn, connectedIn_concat, connected, sent]

namespace Records

variable (records : Records capacity events link)

include records

/-- A call that makes no difference to what is recorded of the link. -/
theorem of_quiet (quiet : event.IsQuiet) (same : link.Alike after)
    (tells : ∀ number exchange, after.exchanges[number]? = some exchange →
      Tells (events ++ [event]) number exchange)
    (known : ∀ number, event.request? = some number → number < link.exchanges.length) :
    Records capacity (events ++ [event]) after where
  capacity := same.capacity.trans records.capacity
  room := by rw [same.queue, same.capacity]; exact records.room
  accepting := by
    rw [same.accepting, records.accepting]
    simp [quiet.not_close.symm, quiet.not_dropEngine.symm]
  held := by
    rw [same.engineEnd, records.held]
    simp [quiet.not_dropEngine.symm]
  connected := by
    rw [connectedIn_concat, quiet.connected, same.sessions, ← records.connected]
    exact List.append_nil _
  asked := by
    rw [askedIn_concat_of_quiet quiet.connected quiet.sent, same.asked, records.asked]
  accepted := by
    rw [askedIn_concat_of_quiet quiet.connected quiet.sent, acceptedIn_concat, quiet.accepted]
    simpa using records.accepted
  queue := by
    rw [same.engineEnd, acceptedIn_concat, quiet.accepted, same.queue, same.length_eq]
    simpa using records.queue
  tells := tells
  known := by
    rw [same.length_eq]
    exact List.forall_mem_append.mpr ⟨records.known, List.forall_mem_singleton.mpr known⟩

/-- A call about a request, which makes a difference to no other. -/
theorem of_about (quiet : event.IsQuiet) (about : event.request? = some number)
    (same : link.Alike after) (inside : number < link.exchanges.length)
    (others : ∀ place, number ≠ place → after.exchanges[place]? = link.exchanges[place]?)
    (tells : ∀ exchange, after.exchanges[number]? = some exchange →
      Tells (events ++ [event]) number exchange) : Records capacity (events ++ [event]) after := by
  refine records.of_quiet quiet same (fun place exchange found => ?_) ?_
  · by_cases here : number = place
    · subst here
      exact tells exchange found
    · rw [others place here] at found
      exact (records.tells place exchange found).of_other (by simp [about, here])
        quiet.not_dropEngine
  · intro place again
    obtain rfl := Option.some.inj (about.symm.trans again)
    exact inside

/-- A call that changes a request. -/
theorem of_modify {exchange : Exchange} {change : Exchange → Exchange} (quiet : event.IsQuiet)
    (about : event.request? = some number) (found : link.exchanges[number]? = some exchange)
    (same : ∀ exchange, (change exchange).session = exchange.session ∧
      (change exchange).request = exchange.request)
    (tells : Tells (events ++ [event]) number (change exchange)) :
    Records capacity (events ++ [event]) (link.modify number change) := by
  refine records.of_about quiet about (alike_modify same) (List.getElem?_eq_some_iff.mp found).1
    (fun place other => getElem?_modify_of_ne other change) fun exchange' there => ?_
  rw [getElem?_modify_self found] at there
  exact Option.some.inj there ▸ tells

/-- A call that is about no request and changes none. -/
theorem of_same (quiet : event.IsQuiet) (about : event.request? = none) (same : link.Alike after)
    (exchanges : after.exchanges = link.exchanges) :
    Records capacity (events ++ [event]) after := by
  refine records.of_quiet quiet same (fun number exchange found => ?_) (by simp [about])
  rw [exchanges] at found
  exact (records.tells number exchange found).of_other (by simp [about]) quiet.not_dropEngine

/-- A message is written. -/
theorem of_write {message : Message} {exchange : Exchange}
    (found : link.exchanges[number]? = some exchange) (taken : exchange.stage = .taken) :
    Records capacity (events ++ [(.write number message, .done)])
      (link.modify number fun exchange =>
        { exchange with written := exchange.written ++ [message] }) := by
  have tells := records.tells number exchange found
  refine records.of_modify ⟨rfl, rfl, rfl, by simp, by simp⟩ rfl found (fun _ => ⟨rfl, rfl⟩) ?_
  constructor
  case written => simp [writtenIn_concat, Event.request?, Event.written?, tells.written]
  case heard =>
    rw [heardIn_concat_of_mute rfl, tells.heard, List.take_append_of_le_length tells.within]
  case within => simpa using Nat.le_succ_of_le tells.within
  case queued => simpa [acceptedIn_concat, Event.accepted?] using tells.queued
  case untaken => simpa [acceptedIn_concat, Event.accepted?, taken] using tells.untaken
  case ended => simp [taken]
  case told =>
    have untold := mt (fun noMore => (tells.told noMore).1) (by simp [taken])
    simp [untold]

/-- A message is read. -/
theorem of_read {message : Message} {exchange : Exchange}
    (found : link.exchanges[number]? = some exchange)
    (there : exchange.written[exchange.read]? = some message) :
    Records capacity (events ++ [(.next number, .read message)])
      (link.modify number fun exchange => { exchange with read := exchange.read + 1 }) := by
  have tells := records.tells number exchange found
  have inside := (List.getElem?_eq_some_iff.mp there).1
  refine records.of_modify ⟨rfl, rfl, rfl, by simp, by simp⟩ rfl found (fun _ => ⟨rfl, rfl⟩) ?_
  constructor
  case written => rw [writtenIn_concat_of_mute rfl, tells.written]
  case heard =>
    simp [heardIn_concat, Event.request?, Event.heard?, tells.heard, List.take_add_one, there]
  case within => exact inside
  case queued => simpa [acceptedIn_concat, Event.accepted?] using tells.queued
  case untaken => simpa [acceptedIn_concat, Event.accepted?] using tells.untaken
  case ended => simpa [IsOver, acceptedIn_concat, Event.accepted?] using tells.ended
  case told =>
    have untold := mt (fun noMore => (tells.told noMore).2) (Nat.ne_of_lt inside)
    simp [untold]

/-- A reader is told that nothing comes any more. -/
theorem of_noMore {exchange : Exchange} (found : link.exchanges[number]? = some exchange)
    (ended : exchange.stage = .ended) (all : exchange.written.length ≤ exchange.read) :
    Records capacity (events ++ [(.next number, .noMore)]) link := by
  have tells := records.tells number exchange found
  refine records.of_about ⟨rfl, rfl, rfl, by simp, by simp⟩ rfl (.refl link)
    (List.getElem?_eq_some_iff.mp found).1 (fun _ _ => rfl) fun exchange' there => ?_
  obtain rfl := Option.some.inj (found.symm.trans there)
  constructor
  case written => rw [writtenIn_concat_of_mute rfl, tells.written]
  case heard => rw [heardIn_concat_of_mute rfl, tells.heard]
  case within => exact tells.within
  case queued => simpa [acceptedIn_concat, Event.accepted?] using tells.queued
  case untaken => simpa [acceptedIn_concat, Event.accepted?] using tells.untaken
  case ended => simpa [IsOver, acceptedIn_concat, Event.accepted?] using tells.ended
  case told => exact fun _ => ⟨ended, Nat.le_antisymm tells.within all⟩

/-- What writes to a request is gone. -/
theorem of_dropWriter {exchange : Exchange} (found : link.exchanges[number]? = some exchange)
    (taken : exchange.stage = .taken) :
    Records capacity (events ++ [(.dropWriter number, .done)]) (link.finish number) := by
  have tells := records.tells number exchange found
  refine records.of_modify ⟨rfl, rfl, rfl, by simp, by simp⟩ rfl found (fun _ => ⟨rfl, rfl⟩) ?_
  constructor
  case written => rw [writtenIn_concat_of_mute rfl, tells.written]
  case heard => rw [heardIn_concat_of_mute rfl, tells.heard]
  case within => exact tells.within
  case queued =>
    have queued := tells.queued
    simp only [taken, reduceCtorEq] at queued
    simpa [acceptedIn_concat, Event.accepted?] using queued
  case untaken =>
    intro untaken
    rw [acceptedIn_concat] at untaken
    exact absurd taken (tells.untaken (by simpa [Event.accepted?] using untaken)).1
  case ended => simp [IsOver]
  case told =>
    have untold := mt (fun noMore => (tells.told noMore).1) (by simp [taken])
    simp [untold]

/-- Nobody listens any more. -/
theorem of_dropReplies {exchange : Exchange} (found : link.exchanges[number]? = some exchange) :
    Records capacity (events ++ [(.dropReplies number, .done)]) (link.dropReplies number) := by
  have tells := records.tells number exchange found
  refine records.of_modify ⟨rfl, rfl, rfl, by simp, by simp⟩ rfl found (fun _ => ⟨rfl, rfl⟩) ?_
  constructor
  case written => rw [writtenIn_concat_of_mute rfl, tells.written]
  case heard => rw [heardIn_concat_of_mute rfl, tells.heard]
  case within => exact tells.within
  case queued => simpa [acceptedIn_concat, Event.accepted?] using tells.queued
  case untaken => simpa [acceptedIn_concat, Event.accepted?] using tells.untaken
  case ended => simpa [IsOver, acceptedIn_concat, Event.accepted?] using tells.ended
  case told => simpa using tells.told

/-- While there is an engine, a request that waits was not taken. -/
theorem not_accepted_of_waiting (held : link.engineEnd = true) (waits : number ∈ link.queue) :
    number ∉ (acceptedIn events).map (·.2) := by
  have distinct := List.nodup_range (n := link.exchanges.length)
  rw [← records.queue held] at distinct
  exact fun taken => (List.nodup_append.mp distinct).2.2 number taken number waits rfl

/-- The request that is taken is the first that was not. -/
theorem acceptedIn_concat_prefix {queue : List Nat} {exchange : Exchange}
    (held : link.engineEnd = true) (split : link.queue = number :: queue)
    (found : link.exchanges[number]? = some exchange) :
    acceptedIn events ++ [((some exchange.session, exchange.request), number)] <+:
      askedIn events := by
  have counted := records.queue held
  rw [split] at counted
  -- The numbers taken and those that wait are all numbers in order.
  have first : number = (acceptedIn events).length := by
    have there := congrArg (·[(acceptedIn events).length]?) counted
    rw [List.getElem?_append_right (by simp)] at there
    have inside : (acceptedIn events).length < link.exchanges.length := by
      have lengths := congrArg List.length counted
      simp at lengths
      omega
    simpa [List.getElem?_range inside] using there
  have there : (askedIn events)[(acceptedIn events).length]? =
      some ((some exchange.session, exchange.request), number) := by
    rw [records.asked, ← first]
    simp [found]
  obtain ⟨inside, same⟩ := List.getElem?_eq_some_iff.mp there
  have longer := List.concat_get_prefix records.accepted inside
  rwa [List.get_eq_getElem, same] at longer

/-- A request is taken. -/
theorem of_accept {queue : List Nat} {exchange : Exchange} (held : link.engineEnd = true)
    (split : link.queue = number :: queue) (found : link.exchanges[number]? = some exchange) :
    Records capacity
      (events ++ [(.accept, .accepted number exchange.session exchange.request)])
      ({ link with queue }.modify number fun exchange => { exchange with stage := .taken }) := by
  have accepted :
      acceptedIn (events ++ [(.accept, .accepted number exchange.session exchange.request)]) =
        acceptedIn events ++ [((some exchange.session, exchange.request), number)] :=
    acceptedIn_concat _ _
  have asked :
      askedIn (events ++ [(.accept, .accepted number exchange.session exchange.request)]) =
        askedIn events := askedIn_concat_of_quiet rfl rfl
  have waiting : exchange.stage = .queued :=
    (records.tells number exchange found).queued (records.held.mp held)
      (records.not_accepted_of_waiting held (by simp [split]))
  have same : ({ link with queue } : Link).Alike ({ link with queue }.modify number fun exchange =>
      { exchange with stage := .taken }) := alike_modify fun _ => ⟨rfl, rfl⟩
  have tells := records.tells number exchange found
  constructor
  case capacity => exact records.capacity
  case room =>
    have room := records.room
    rw [split] at room
    exact Nat.le_trans (Nat.le_succ _) room
  case accepting =>
    rw [same.accepting]
    simpa using records.accepting
  case held =>
    rw [same.engineEnd]
    simpa using records.held
  case connected =>
    rw [connectedIn_concat, same.sessions, ← records.connected]
    exact List.append_nil _
  case asked => rw [asked, same.asked, records.asked]
  case accepted =>
    rw [accepted, asked]
    exact records.acceptedIn_concat_prefix held split found
  case queue =>
    intro _
    have counted := records.queue held
    rw [split] at counted
    rw [accepted, same.length_eq, ← counted]
    simp [same.queue]
  case tells =>
    intro place other there
    by_cases here : number = place
    · subst here
      have found' : ({ link with queue } : Link).exchanges[number]? = some exchange := found
      rw [getElem?_modify_self found'] at there
      obtain rfl := Option.some.inj there
      constructor
      case written => rw [writtenIn_concat_of_mute rfl, tells.written]
      case heard => rw [heardIn_concat_of_mute rfl, tells.heard]
      case within => exact tells.within
      case queued => simp [accepted]
      case untaken => simp [accepted]
      case ended => simp
      case told =>
        have untold := mt (fun noMore => (tells.told noMore).1) (by simp [waiting])
        simp [untold]
    · rw [getElem?_modify_of_ne here] at there
      exact (records.tells place other there).of_other (by simp [Event.request?, here]) (by simp)
  case known =>
    rw [same.length_eq]
    refine List.forall_mem_append.mpr ⟨records.known, List.forall_mem_singleton.mpr ?_⟩
    rintro place ⟨⟩
    exact (List.getElem?_eq_some_iff.mp found).1

/-- No call was about a request that was not sent yet. -/
theorem filter_request?_eq_nil (outside : link.exchanges.length ≤ number) :
    events.filter (·.request? = some number) = [] := by
  refine List.filter_eq_nil_iff.mpr fun event member about => ?_
  exact absurd (records.known event member number (by simpa using about)) (Nat.not_lt.mpr outside)

/-- A request is sent. -/
theorem of_send {connection : Nat} {request : Request} {sender : Connection}
    (found : link.connections[connection]? = some sender)
    (room : link.queue.length < link.capacity) :
    Records capacity (events ++ [(.send connection request, .made link.exchanges.length)])
      { link with
        exchanges := link.exchanges ++ [{ session := sender.session, request }]
        queue := link.queue ++ [link.exchanges.length] } := by
  have named : (connectedIn events)[connection]?.map (·.1) = some sender.session := by
    rw [records.connected]
    simp [found]
  have asked : askedIn (events ++ [(.send connection request, .made link.exchanges.length)]) =
      askedIn events ++ [((some sender.session, request), link.exchanges.length)] := by
    simp [askedIn, connectedIn_concat, Event.connected?, Event.sent?, named]
  -- No call was about the new request, so that nothing is told of it.
  have silent := records.filter_request?_eq_nil (Nat.le_refl link.exchanges.length)
  constructor
  case capacity => exact records.capacity
  case room => simpa using Nat.succ_le_of_lt room
  case accepting => simpa using records.accepting
  case held => simpa using records.held
  case connected =>
    rw [connectedIn_concat, ← records.connected]
    exact List.append_nil _
  case asked =>
    rw [asked, records.asked]
    simp [List.zipIdx_append]
  case accepted =>
    rw [acceptedIn_concat, asked]
    simpa [Event.accepted?] using records.accepted.trans (List.prefix_append _ _)
  case queue =>
    intro held
    rw [acceptedIn_concat]
    simp [Event.accepted?, ← List.append_assoc, records.queue held, List.range_succ]
  case tells =>
    intro number exchange there
    rcases Nat.lt_or_ge number link.exchanges.length with inside | outside
    · rw [List.getElem?_append_left inside] at there
      exact (records.tells number exchange there).of_other (by simp [Event.request?]) (by simp)
    · rw [List.getElem?_append_right outside, List.getElem?_singleton] at there
      split at there
      · obtain rfl : number = link.exchanges.length := by omega
        obtain rfl := Option.some.inj there
        constructor
        case written => simp [Event.written?, writtenIn, silent]
        case heard => simp [Event.heard?, heardIn, silent]
        case within => exact Nat.le_refl _
        case queued => exact fun _ _ => rfl
        case untaken => simp
        case ended => simp
        case told =>
          have unread : (.next link.exchanges.length, .noMore) ∉ events := fun member =>
            absurd (records.known _ member _ rfl) (Nat.lt_irrefl _)
          simp [unread]
      · contradiction
  case known =>
    rw [List.length_append]
    refine List.forall_mem_append.mpr
      ⟨fun event member number about => ?_, by simp [Event.request?]⟩
    exact Nat.lt_succ_of_lt (records.known event member number about)

/-- A connection was made before a request was sent on it. -/
theorem connection_lt {connection : Nat} {request : Request}
    (sent : ((connection, request), number) ∈ events.filterMap Event.sent?) :
    connection < (connectedIn events).length := by
  have member : (((connectedIn events)[connection]?.map (·.1), request), number) ∈
      askedIn events := List.mem_map_of_mem sent
  rw [records.asked] at member
  obtain ⟨exchange, -, same⟩ := List.mem_map.mp (List.fst_mem_of_mem_zipIdx member)
  obtain ⟨entry, found, -⟩ := Option.map_eq_some_iff.mp (Prod.mk.inj same).1.symm
  exact (List.getElem?_eq_some_iff.mp found).1

/-- A connection is made. -/
theorem of_connect {session : String} :
    Records capacity (events ++ [(.connect session, .made link.connections.length)])
      { link with connections := link.connections ++ [{ session }] } := by
  have connected : connectedIn (events ++ [(.connect session, .made link.connections.length)]) =
      connectedIn events ++ [(session, link.connections.length)] := connectedIn_concat _ _
  have asked : askedIn (events ++ [(.connect session, .made link.connections.length)]) =
      askedIn events := by
    simp only [askedIn, filterMap_concat, Event.sent?, Option.toList_none, List.append_nil]
    refine List.map_congr_left fun ⟨⟨connection, request⟩, number⟩ sent => ?_
    rw [connected, List.getElem?_append_left (records.connection_lt sent)]
  constructor
  case capacity => exact records.capacity
  case room => exact records.room
  case accepting => simpa using records.accepting
  case held => simpa using records.held
  case connected =>
    rw [connected, records.connected]
    simp [List.zipIdx_append]
  case asked => rw [asked, records.asked]
  case accepted =>
    rw [acceptedIn_concat, asked]
    simpa [Event.accepted?] using records.accepted
  case queue =>
    intro held
    rw [acceptedIn_concat]
    simpa [Event.accepted?] using records.queue held
  case tells =>
    intro number exchange there
    exact (records.tells number exchange there).of_other (by simp [Event.request?]) (by simp)
  case known => exact List.forall_mem_append.mpr ⟨records.known, by simp [Event.request?]⟩

/-- The link is closed. -/
theorem of_close :
    Records capacity (events ++ [(.close, .done)]) { link with accepting := false } := by
  have asked : askedIn (events ++ [(.close, .done)]) = askedIn events :=
    askedIn_concat_of_quiet rfl rfl
  constructor
  case capacity => exact records.capacity
  case room => exact records.room
  case accepting => simp
  case held => simpa using records.held
  case connected =>
    rw [connectedIn_concat, ← records.connected]
    exact List.append_nil _
  case asked => rw [asked, records.asked]
  case accepted =>
    rw [acceptedIn_concat, asked]
    simpa [Event.accepted?] using records.accepted
  case queue =>
    intro held
    rw [acceptedIn_concat]
    simpa [Event.accepted?] using records.queue held
  case tells =>
    intro number exchange there
    exact (records.tells number exchange there).of_other (by simp [Event.request?]) (by simp)
  case known => exact List.forall_mem_append.mpr ⟨records.known, by simp [Event.request?]⟩

/-- The engine lets go of its end, and with it of the requests that wait. -/
theorem of_dropEngine (held : link.engineEnd = true) :
    Records capacity (events ++ [(.dropEngine, .done)]) link.dropEngine := by
  have asked : askedIn (events ++ [(.dropEngine, .done)]) = askedIn events :=
    askedIn_concat_of_quiet rfl rfl
  have accepted : acceptedIn (events ++ [(.dropEngine, .done)]) = acceptedIn events :=
    (acceptedIn_concat _ _).trans (List.append_nil _)
  have ended (number : Nat) : link.dropEngine.exchanges[number]? =
      link.exchanges[number]?.map fun exchange =>
        if number ∈ link.queue then { exchange with stage := .ended } else exchange :=
    getElem?_finishAll link link.queue number
  have same : link.dropEngine.exchanges.map (fun sent => (some sent.session, sent.request)) =
      link.exchanges.map fun sent => (some sent.session, sent.request) := by
    refine List.ext_getElem? fun number => ?_
    rw [List.getElem?_map, List.getElem?_map, ended]
    cases link.exchanges[number]? with
    | none => rfl
    | some exchange => by_cases waits : number ∈ link.queue <;> simp [waits]
  constructor
  case capacity => exact (capacity_finishAll link link.queue).trans records.capacity
  case room => exact Nat.zero_le _
  case accepting => simp [dropEngine]
  case held => simp [dropEngine]
  case connected =>
    rw [connectedIn_concat, dropEngine, connections_finishAll, ← records.connected]
    exact List.append_nil _
  case asked => rw [asked, same, records.asked]
  case accepted =>
    rw [accepted, asked]
    exact records.accepted
  case queue => simp [dropEngine]
  case tells =>
    intro number exchange' there
    rw [ended] at there
    obtain ⟨exchange, found, rfl⟩ := Option.map_eq_some_iff.mp there
    have tells := records.tells number exchange found
    by_cases waits : number ∈ link.queue
    -- What waits was not taken, and ends with the engine.
    · rw [if_pos waits]
      have untaken := records.not_accepted_of_waiting held waits
      constructor
      case written => rw [writtenIn_concat_of_mute rfl, tells.written]
      case heard => rw [heardIn_concat_of_mute rfl, tells.heard]
      case within => exact tells.within
      case queued => simp
      case untaken => simp [accepted, untaken, (tells.untaken untaken).2]
      case ended => simp [IsOver, accepted, untaken]
      case told => simpa using fun told => (tells.told told).2
    · rw [if_neg waits]
      constructor
      case written => rw [writtenIn_concat_of_mute rfl, tells.written]
      case heard => rw [heardIn_concat_of_mute rfl, tells.heard]
      case within => exact tells.within
      case queued => simp
      case untaken =>
        rw [accepted]
        exact tells.untaken
      case ended =>
        intro stopped
        rcases tells.ended stopped with dropped | ⟨gone, -⟩
        · exact .inl (List.mem_append_left _ dropped)
        · exact absurd gone (records.held.mp held)
      case told => simpa using tells.told
  case known =>
    have length : link.dropEngine.exchanges.length = link.exchanges.length := by
      simpa using congrArg List.length same
    rw [length]
    exact List.forall_mem_append.mpr ⟨records.known, by simp [Event.request?]⟩

/-- A call keeps the records. -/
theorem step (moves : link.Moves act outcome after) :
    Records capacity (events ++ [(act, outcome)]) after := by
  cases moves with
  | connect => exact records.of_connect
  | send found _ room => exact records.of_send found room
  | accept held split found => exact records.of_accept held split found
  | write found taken => exact records.of_write found taken
  | read found there => exact records.of_read found there
  | noMore found ended all => exact records.of_noMore found ended all
  | dry => exact records.of_same ⟨rfl, rfl, rfl, by simp, by simp⟩ rfl (.refl link) rfl
  | refused =>
      obtain ⟨quiet, about⟩ := Event.isQuiet_of_unmet act (.inl ⟨_, rfl⟩)
      exact records.of_same quiet about (.refl link) rfl
  | pending =>
      obtain ⟨quiet, about⟩ := Event.isQuiet_of_unmet act (.inr rfl)
      exact records.of_same quiet about (.refl link) rfl
  | close => exact records.of_close
  | dropEngine held => exact records.of_dropEngine held
  | dropSessions =>
      exact records.of_same ⟨rfl, rfl, rfl, by simp, by simp⟩ rfl ⟨rfl, rfl, rfl, rfl, rfl, rfl⟩ rfl
  | dropConnection =>
      exact records.of_same ⟨rfl, rfl, rfl, by simp, by simp⟩ rfl
        ⟨rfl, rfl, rfl, rfl, sessions_dropConnection .., rfl⟩ rfl
  | dropWriter found taken => exact records.of_dropWriter found taken
  | dropReplies found => exact records.of_dropReplies found

end Records

theorem records_ofCapacity (capacity : Nat) : Records capacity [] (.ofCapacity capacity) where
  capacity := rfl
  room := Nat.zero_le _
  accepting := by simp [ofCapacity]
  held := by simp [ofCapacity]
  connected := rfl
  asked := rfl
  accepted := List.prefix_rfl
  queue := fun _ => rfl
  tells := by simp [ofCapacity]
  known := by simp

/-- Calls that are made one after the other keep the records. -/
theorem Records.record (records : Records capacity events link) (acts : List Act) :
    Records capacity (events ++ (link.record acts).1) (link.record acts).2 := by
  induction acts generalizing events link with
  | nil => simpa [Link.record] using records
  | cons act acts induction =>
      simp only [Link.record]
      split
      · rename_i outcome after made
        simpa using induction (records.step (moves_of_perform made))
      · exact induction records

end Link
end SqlEngine
