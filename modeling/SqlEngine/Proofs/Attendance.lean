import Mathlib.Data.List.Nodup
import SqlEngine.Proofs.Serving

/-!
# What sessions make of it

A session keeps to one request at a time.  Those that it has sent are all over but for the last, on
which it may still be waiting; those that were refused came after all that were sent, since a link
that refuses a request refuses all that follow.
-/

namespace SqlEngine

/-- What a session has been answered when some requests are over and others were refused. -/
def Party.answersOf (past : List Dealing) (refused : List Request) :
    List (Except Error (List Message)) :=
  past.map (fun dealing => .ok dealing.written) ++ refused.map fun _ => .error .engineStopped

/-- A session knows what it has sent over a link, and what came of it. -/
inductive Party.Kept (link : Link) : Party → Prop where
  /-- All that it has sent is over. -/
  | idle {name : String} {past : List Dealing} (refused : List Request)
      (mine : link.dealingsOf name = past) (ended : ∀ dealing ∈ past, dealing.stage = .ended)
      (closed : refused ≠ [] → link.accepting = false) :
      Kept link
        { name
          asked := past.map (·.request) ++ refused
          answers := answersOf past refused
          errand := .none }
  /-- All that it has sent is over, and a request waits to be sent. -/
  | sending {name : String} {past : List Dealing} {refused : List Request} (request : Request)
      (mine : link.dealingsOf name = past) (ended : ∀ dealing ∈ past, dealing.stage = .ended)
      (closed : refused ≠ [] → link.accepting = false) :
      Kept link
        { name
          asked := past.map (·.request) ++ refused ++ [request]
          answers := answersOf past refused
          errand := .sending request }
  /-- All that it has sent is over but for the last request, and part of the reply is read. -/
  | waiting {name : String} {past : List Dealing} {index : Nat} {heard : List Message}
      (exchange : Exchange) (found : link.exchanges[index]? = some exchange)
      (session : exchange.session = name)
      (before : Exchange.dealingsOf (link.exchanges.take index) name = past)
      (behind : Exchange.dealingsOf (link.exchanges.drop (index + 1)) name = [])
      (ended : ∀ dealing ∈ past, dealing.stage = .ended)
      (listening : exchange.listening = true) (read : exchange.read = heard.length)
      (part : heard <+: exchange.written) :
      Kept link
        { name
          asked := past.map (·.request) ++ [exchange.request]
          answers := answersOf past []
          errand := .waiting index heard }

namespace Party.Kept

variable {link after : Link} {party : Party}

/-- What the engine does to a link leaves a session with what it knows. -/
theorem grow (kept : party.Kept link) (grows : link.Grows after) : party.Kept after := by
  cases kept with
  | idle refused mine ended closed =>
      refine .idle _ ?_ ended (grows.closed ∘ closed)
      rw [← mine] at ended ⊢
      exact Exchange.dealingsOf_of_grows grows.exchanges ended
  | sending request mine ended closed =>
      refine .sending request ?_ ended (grows.closed ∘ closed)
      rw [← mine] at ended ⊢
      exact Exchange.dealingsOf_of_grows grows.exchanges ended
  | @waiting name past index heard exchange found session before behind ended listening read part =>
      obtain ⟨inside, rfl⟩ := List.getElem?_eq_some_iff.mp found
      have inside' := grows.exchanges.length_eq ▸ inside
      have growth := grows.exchanges.get inside inside'
      simp only [List.get_eq_getElem] at growth
      rw [← growth.request]
      refine .waiting _ (List.getElem?_eq_getElem inside') (growth.session.trans session) ?_ ?_
        ended (growth.listening.trans listening) (growth.read.trans read) (part.trans growth.written)
      · rw [← before] at ended ⊢
        exact Exchange.dealingsOf_of_grows (List.forall₂_take index grows.exchanges) ended
      · rw [← behind]
        refine Exchange.dealingsOf_of_grows (List.forall₂_drop (index + 1) grows.exchanges) ?_
        simp [behind]

/-- What another session sends is nothing to a session. -/
theorem of_sent (kept : party.Kept link) {exchange : Exchange}
    (other : exchange.session ≠ party.name)
    (exchanges : after.exchanges = link.exchanges ++ [exchange])
    (accepting : after.accepting = link.accepting) : party.Kept after := by
  have nothing {name : String} (other : exchange.session ≠ name) :
      Exchange.dealingsOf [exchange] name = [] := by
    simp [Exchange.dealingsOf, Exchange.dealing, other]
  have same {name : String} (other : exchange.session ≠ name) :
      after.dealingsOf name = link.dealingsOf name := by
    rw [Link.dealingsOf, exchanges, Exchange.dealingsOf_append, nothing other, List.append_nil]
    rfl
  cases kept with
  | idle refused mine ended closed =>
      exact .idle _ ((same other).trans mine) ended (accepting ▸ closed)
  | sending request mine ended closed =>
      exact .sending request ((same other).trans mine) ended (accepting ▸ closed)
  | @waiting name past index heard mine found session before behind ended listening read part =>
      have inside := (List.getElem?_eq_some_iff.mp found).1
      refine .waiting _ ?_ session ?_ ?_ ended listening read part
      · rwa [exchanges, List.getElem?_append_left inside]
      · rwa [exchanges, List.take_append_of_le_length (by omega)]
      · rw [exchanges, List.drop_append_of_le_length (by omega), Exchange.dealingsOf_append, behind,
          nothing other, List.append_nil]

/-- How far another session has read is nothing to a session. -/
theorem of_reader (kept : party.Kept link) {number : Nat} {exchange : Exchange}
    {change : Exchange → Exchange} (found : link.exchanges[number]? = some exchange)
    (other : exchange.session ≠ party.name)
    (same : ∀ exchange, (change exchange).dealing = exchange.dealing) :
    party.Kept (link.modify number change) := by
  have dealings : (link.modify number change).exchanges.map Exchange.dealing =
      link.exchanges.map Exchange.dealing := Link.dealings_modify_reader same
  have mine' (name : String) :
      (link.modify number change).dealingsOf name = link.dealingsOf name := by
    rw [Link.dealingsOf, Exchange.dealingsOf, dealings]
    rfl
  cases kept with
  | idle refused mine ended closed => exact .idle _ ((mine' _).trans mine) ended closed
  | sending request mine ended closed =>
      exact .sending request ((mine' _).trans mine) ended closed
  | @waiting name past index heard exchange' found' session before behind ended listening read
      part =>
      have elsewhere : number ≠ index := by
        rintro rfl
        obtain rfl := Option.some.inj (found.symm.trans found')
        exact other session
      refine .waiting _ ?_ session ?_ ?_ ended listening read part
      · simpa [Link.modify, List.getElem?_modify, elsewhere] using found'
      · rw [Exchange.dealingsOf, List.map_take, dealings, ← List.map_take]
        exact before
      · rw [Exchange.dealingsOf, List.map_drop, dealings, ← List.map_drop]
        exact behind

/-- A session waits for a request of its own, of which it has read the first messages. -/
theorem of_waiting (kept : party.Kept link) {index : Nat} {heard : List Message}
    (errand : party.errand = .waiting index heard) :
    ∃ exchange, link.exchanges[index]? = some exchange ∧ exchange.session = party.name ∧
      exchange.listening = true ∧ exchange.read = heard.length ∧ heard <+: exchange.written := by
  cases kept with
  | idle => cases errand
  | sending => cases errand
  | waiting exchange found session before behind ended listening read part =>
      cases errand
      exact ⟨exchange, found, session, listening, read, part⟩

/-! ## What a session does itself -/

/-- A session that has sent nothing, and that has a name of its own. -/
theorem of_connect {name : String} (mine : link.dealingsOf name = []) :
    Kept link { name } :=
  .idle [] mine (by simp) (by simp)

/-- A session takes up a request. -/
theorem ask (kept : party.Kept link) (idle : party.errand = .none) (request : Request) :
    Kept link { party with asked := party.asked ++ [request], errand := .sending request } := by
  cases kept with
  | idle refused mine ended closed => exact .sending request mine ended closed
  | sending => cases idle
  | waiting => cases idle

/-- A session sends its request. -/
theorem send (kept : party.Kept link) {number index : Nat} {request : Request}
    {connection : Connection} (errand : party.errand = .sending request)
    (found : link.connection? number = some connection) (session : connection.session = party.name)
    (sent : link.send number request = (.ready (.ok index), after)) :
    Kept after { party with errand := .waiting index [] } := by
  obtain ⟨connection', found', accepting, -, rfl, rfl⟩ := Link.send_eq_ok sent
  obtain rfl := Option.some.inj (found.symm.trans found')
  cases kept with
  | idle => cases errand
  | waiting => cases errand
  | @sending name past refused request mine ended closed =>
      cases errand
      have none : refused = [] := by
        by_contra some
        exact absurd (closed some) (by simp [accepting])
      subst none
      rw [List.append_nil]
      let exchange : Exchange := { session := connection.session, request }
      have last : (link.exchanges ++ [exchange])[link.exchanges.length]? = some exchange := by simp
      refine .waiting exchange last session ?_ ?_ ended rfl rfl List.nil_prefix
      · rwa [List.take_left']
        rfl
      · simp [Exchange.dealingsOf]

/-- A session is refused a request. -/
theorem refuse (kept : party.Kept link) {number : Nat} {request : Request} {error : Error}
    (errand : party.errand = .sending request)
    (refused : link.send number request = (.ready (.error error), after)) :
    Kept after { party with answers := party.answers ++ [.error error], errand := .none } := by
  obtain ⟨accepting, rfl, rfl⟩ := Link.send_eq_error refused
  cases kept with
  | idle => cases errand
  | waiting => cases errand
  | @sending name past earlier request mine ended closed =>
      cases errand
      have kept := idle (earlier ++ [request]) mine ended fun _ => accepting
      simpa [answersOf] using kept

/-- A session reads a message. -/
theorem hear (kept : party.Kept link) {index : Nat} {heard : List Message} {message : Message}
    (errand : party.errand = .waiting index heard)
    (met : link.next index = (.ready (some message), after)) :
    Kept after { party with errand := .waiting index (heard ++ [message]) } := by
  obtain ⟨exchange, found, listening, next, rfl⟩ := Link.next_eq_some met
  have dealings : (link.modify index fun exchange =>
      { exchange with read := exchange.read + 1 }).exchanges.map Exchange.dealing =
        link.exchanges.map Exchange.dealing := Link.dealings_modify_reader fun _ => rfl
  cases kept with
  | idle => cases errand
  | sending => cases errand
  | @waiting name past place heard exchange' found' session before behind ended listening read
      part =>
      cases errand
      obtain rfl := Option.some.inj (found.symm.trans found')
      refine .waiting { exchange with read := exchange.read + 1 }
        (Link.getElem?_modify_self found _) session ?_ ?_ ended listening ?_ ?_
      · rwa [Exchange.dealingsOf, List.map_take, dealings, ← List.map_take]
      · rwa [Exchange.dealingsOf, List.map_drop, dealings, ← List.map_drop]
      · rw [List.length_append, ← read]
        rfl
      · -- The message that comes next was written right behind those heard before.
        obtain ⟨rest, split⟩ := part
        rw [← split, read] at next
        obtain ⟨rest', rfl⟩ : ∃ rest', rest = message :: rest' := by
          cases rest with
          | nil => simp at next
          | cons first rest' =>
              rw [List.getElem?_append_right (Nat.le_refl _), Nat.sub_self] at next
              exact ⟨rest', by rw [← Option.some.inj next]⟩
        exact ⟨rest', by simp [← split]⟩

/-- A session has read everything. -/
theorem conclude (kept : party.Kept link) {index : Nat} {heard : List Message}
    (errand : party.errand = .waiting index heard)
    (met : link.next index = (.ready none, after)) :
    Kept (after.dropReplies index)
      { party with answers := party.answers ++ [.ok heard], errand := .none } := by
  obtain ⟨exchange, found, stage, finished, same⟩ := Link.next_eq_none met
  subst same
  have dealings (name : String) :
      (after.dropReplies index).dealingsOf name = after.dealingsOf name := by
    have same : (after.dropReplies index).dealings = after.dealings :=
      Link.dealings_modify_reader fun _ => rfl
    rw [Link.dealingsOf_eq, same, Link.dealingsOf_eq]
  cases kept with
  | idle => cases errand
  | sending => cases errand
  | @waiting name past place heard exchange' found' session before behind ended listening read
      part =>
      cases errand
      obtain rfl := Option.some.inj (found.symm.trans found')
      have whole : exchange.written = heard :=
        (part.eq_of_length_le (read ▸ finished)).symm
      have mine : after.dealingsOf name = past ++ [exchange.dealing] := by
        rw [← before]
        exact Exchange.dealingsOf_of_last found session behind
      have kept := idle [] ((dealings name).trans mine) ?_ (by simp)
      · simpa [answersOf, Exchange.dealing, whole] using kept
      · simpa [or_imp, forall_and, Exchange.dealing, stage] using ended

end Party.Kept

namespace Traffic

/-- What holds of the side of the sessions. -/
structure Attended (traffic : Traffic) : Prop where
  /-- Each session has its connection. -/
  names : traffic.link.connections.map (·.session) = traffic.parties.map (·.name)
  /-- No two sessions have the same name. -/
  distinct : (traffic.parties.map (·.name)).Nodup
  /-- Every session knows what it has sent. -/
  kept : ∀ party ∈ traffic.parties, party.Kept traffic.link
  /-- A session that is about something holds its connection. -/
  held : ∀ number party, traffic.parties[number]? = some party → party.errand ≠ .none →
    (traffic.link.connection? number).isSome
  /-- All requests are from sessions. -/
  known : ∀ exchange ∈ traffic.link.exchanges, ∃ party ∈ traffic.parties,
    party.name = exchange.session

theorem attended_start (capacity : Nat) : (start capacity).Attended where
  names := rfl
  distinct := List.nodup_nil
  kept := by simp [start]
  held := by simp [start]
  known := by simp [start, Link.ofCapacity]

namespace Attended

variable {traffic after : Traffic}

/-- What the engine does leaves the sessions with what they know. -/
theorem of_grows (attended : traffic.Attended) (parties : after.parties = traffic.parties)
    (connections : after.link.connections = traffic.link.connections)
    (grows : traffic.link.Grows after.link) : after.Attended where
  names := by rw [parties, connections, attended.names]
  distinct := by rw [parties]; exact attended.distinct
  kept party member := (attended.kept party (parties ▸ member)).grow grows
  held number party found about := by
    rw [parties] at found
    simpa [Link.connection?, connections] using attended.held number party found about
  known exchange member := by
    have session : exchange.session ∈ traffic.link.exchanges.map (·.session) := by
      rw [← Exchange.sessions_of_grows grows.exchanges]
      exact List.mem_map_of_mem member
    obtain ⟨earlier, member', same⟩ := List.mem_map.mp session
    rw [parties, ← same]
    exact attended.known earlier member'

/-- The session of a connection has the name of the connection. -/
theorem session_eq (attended : traffic.Attended) {number : Nat} {party : Party}
    {connection : Connection} (found : traffic.parties[number]? = some party)
    (held : traffic.link.connection? number = some connection) :
    connection.session = party.name := by
  have there := (Link.connection?_eq_some.mp held).1
  have same := congrArg (·[number]?) attended.names
  simpa [found, there] using same

theorem name_ne (attended : traffic.Attended) {number place : Nat} {party other : Party}
    (found : traffic.parties[number]? = some party)
    (there : traffic.parties[place]? = some other) (elsewhere : number ≠ place) :
    other.name ≠ party.name := by
  intro same
  obtain ⟨inside, rfl⟩ := List.getElem?_eq_some_iff.mp found
  obtain ⟨inside', rfl⟩ := List.getElem?_eq_some_iff.mp there
  have number_lt : number < (traffic.parties.map (·.name)).length := by simpa using inside
  have place_lt : place < (traffic.parties.map (·.name)).length := by simpa using inside'
  have equal : (traffic.parties.map (·.name))[number] = (traffic.parties.map (·.name))[place] := by
    simp [same]
  exact elsewhere (attended.distinct.getElem_inj_iff.mp equal)

/-- What one session does leaves the others with what they know. -/
theorem of_party (attended : traffic.Attended) {number : Nat} {party party' : Party} {link : Link}
    (found : traffic.parties[number]? = some party) (named : party'.name = party.name)
    (connections : link.connections = traffic.link.connections)
    (others : ∀ other ∈ traffic.parties, other.name ≠ party.name → other.Kept link)
    (own : party'.Kept link)
    (held : party'.errand ≠ .none → (traffic.link.connection? number).isSome)
    (known : ∀ exchange ∈ link.exchanges, exchange.session = party.name ∨
      ∃ earlier ∈ traffic.link.exchanges, earlier.session = exchange.session) :
    (setParty { traffic with link } number party').Attended := by
  have inside := (List.getElem?_eq_some_iff.mp found).1
  have names : (traffic.parties.set number party').map (·.name) =
      traffic.parties.map (·.name) := by
    exact map_set_of_eq found named
  constructor
  · simpa [names, connections] using attended.names
  · simpa [names] using attended.distinct
  · intro other member
    obtain ⟨place, there⟩ := List.mem_iff_getElem?.mp member
    rw [parties_setParty, List.getElem?_set] at there
    split at there
    · obtain rfl := Option.some.inj there
      exact own
    · rename_i elsewhere
      exact others other (List.mem_of_getElem? there) (attended.name_ne found there elsewhere)
  · intro place other there about
    have same : link.connection? place = traffic.link.connection? place := by
      simp [Link.connection?, connections]
    rw [link_setParty, same]
    rw [parties_setParty, List.getElem?_set] at there
    split at there
    · rename_i here
      obtain rfl := Option.some.inj there
      exact here ▸ held about
    · exact attended.held place other there about
  · intro exchange member
    have name : exchange.session ∈ (traffic.parties.set number party').map (·.name) := by
      rw [names]
      obtain mine | ⟨earlier, member', same⟩ := known exchange member
      · exact mine ▸ List.mem_map_of_mem (List.mem_of_getElem? found)
      · obtain ⟨other, known', same'⟩ := attended.known earlier member'
        exact List.mem_map.mpr ⟨other, known', same'.trans same⟩
    exact List.mem_map.mp name

/-- What one session reads leaves the others with what they know. -/
theorem of_reader (attended : traffic.Attended) {number index : Nat} {party party' : Party}
    {exchange : Exchange} {change : Exchange → Exchange}
    (found : traffic.parties[number]? = some party) (named : party'.name = party.name)
    (there : traffic.link.exchanges[index]? = some exchange)
    (session : exchange.session = party.name)
    (same : ∀ exchange, (change exchange).dealing = exchange.dealing)
    (sessions : ∀ exchange, (change exchange).session = exchange.session)
    (own : party'.Kept (traffic.link.modify index change))
    (held : party'.errand ≠ .none → (traffic.link.connection? number).isSome) :
    (setParty { traffic with link := traffic.link.modify index change } number
      party').Attended := by
  refine attended.of_party found named rfl ?_ own held ?_
  · intro other member name_ne
    exact (attended.kept other member).of_reader there (session ▸ name_ne.symm) same
  · intro changed member
    obtain ⟨place, here⟩ := List.mem_iff_getElem?.mp member
    rw [Link.modify, List.getElem?_modify, Option.map_eq_map, Option.map_eq_some_iff] at here
    obtain ⟨earlier, here, rfl⟩ := here
    refine .inr ⟨earlier, List.mem_of_getElem? here, ?_⟩
    split
    · exact (sessions earlier).symm
    · rfl

theorem of_connect (attended : traffic.Attended) {name : String}
    (fresh : ∀ party ∈ traffic.parties, party.name ≠ name) :
    Attended
      { traffic with
        link := { traffic.link with
          connections := traffic.link.connections ++ [{ session := name }] }
        parties := traffic.parties ++ [{ name }] } where
  names := by simp [attended.names]
  distinct := by
    rw [List.map_append, List.nodup_append]
    refine ⟨attended.distinct, List.nodup_singleton _, ?_⟩
    intro other member _ here
    obtain ⟨party, member', rfl⟩ := List.mem_map.mp member
    rw [List.mem_singleton.mp here]
    exact fresh party member'
  kept party member := by
    rcases List.mem_append.mp member with member | member
    · exact (attended.kept party member).grow ⟨(Link.Grows.refl traffic.link).exchanges, id⟩
    · obtain rfl := List.mem_singleton.mp member
      refine .of_connect (List.filter_eq_nil_iff.mpr ?_)
      intro dealing member
      obtain ⟨exchange, member', rfl⟩ := List.mem_map.mp member
      obtain ⟨party, known, same⟩ := attended.known exchange member'
      have other := fresh party known
      simpa [Exchange.dealing, ← same] using other
  held number party found about := by
    rw [List.getElem?_append] at found
    split at found
    · have held := attended.held number party found about
      obtain ⟨connection, held⟩ := Option.isSome_iff_exists.mp held
      obtain ⟨there, isHeld⟩ := Link.connection?_eq_some.mp held
      refine Option.isSome_iff_exists.mpr ⟨connection, Link.connection?_eq_some.mpr ⟨?_, isHeld⟩⟩
      exact List.getElem?_append_left (List.getElem?_eq_some_iff.mp there).1 ▸ there
    · obtain ⟨_, rfl⟩ := List.getElem?_eq_some_iff.mp found
      exact absurd (by simp) about
  known exchange member := by
    obtain ⟨party, known, same⟩ := attended.known exchange member
    exact ⟨party, List.mem_append_left _ known, same⟩

theorem of_leave (attended : traffic.Attended) {number : Nat} {party : Party}
    (found : traffic.parties[number]? = some party) (idle : party.errand = .none) :
    Attended { traffic with link := traffic.link.dropConnection number } where
  names := by
    rw [← attended.names]
    apply List.ext_getElem?
    intro place
    simp only [Link.dropConnection, List.getElem?_map, List.getElem?_modify]
    by_cases here : number = place <;> cases traffic.link.connections[place]? <;> simp [here]
  distinct := attended.distinct
  kept party member :=
    (attended.kept party member).grow ⟨(Link.Grows.refl traffic.link).exchanges, id⟩
  held place other there about := by
    have elsewhere : number ≠ place := by
      rintro rfl
      obtain rfl := Option.some.inj (found.symm.trans there)
      exact about idle
    have held := attended.held place other there about
    simpa [Link.connection?, Link.dropConnection, List.getElem?_modify, elsewhere] using held
  known := attended.known

/-- Whatever happens next, the sessions know what they have sent. -/
theorem step (attended : traffic.Attended) {waiting : List (String × Request)}
    (serving : traffic.Serving waiting) (next : Step traffic after) : after.Attended := by
  cases next with
  | connect fresh opened =>
      obtain ⟨-, rfl⟩ := Link.connect_eq_ok opened
      exact attended.of_connect fresh
  | leave found idle => exact attended.of_leave found idle
  | dropSessions => exact attended.of_grows rfl rfl ⟨(Link.Grows.refl traffic.link).exchanges, id⟩
  | ask request found idle held =>
      refine attended.of_party found rfl rfl (fun other member _ => attended.kept other member) ?_
        (fun _ => held) (fun exchange member => .inr ⟨exchange, member, rfl⟩)
      exact (attended.kept _ (List.mem_of_getElem? found)).ask idle request
  | @send number index party request link found errand sent =>
      have held := attended.held number party found (by simp [errand])
      obtain ⟨connection, held⟩ := Option.isSome_iff_exists.mp held
      have session := attended.session_eq found held
      have own := (attended.kept party (List.mem_of_getElem? found)).send errand held session sent
      obtain ⟨_, held', -, -, -, rfl⟩ := Link.send_eq_ok sent
      obtain rfl := Option.some.inj (held.symm.trans held')
      -- The request stands behind those of the others, which stay where they are.
      refine attended.of_party found rfl rfl ?_ own (fun _ => by simp [held]) ?_
      · intro other member name_ne
        refine (attended.kept other member).of_sent ?_ rfl rfl
        exact session ▸ name_ne.symm
      · intro exchange member
        rcases List.mem_append.mp member with member | member
        · exact .inr ⟨exchange, member, rfl⟩
        · rw [List.mem_singleton.mp member]
          exact .inl session
  | @refuse number party request error link found errand refused =>
      have own := (attended.kept party (List.mem_of_getElem? found)).refuse errand refused
      obtain ⟨-, -, rfl⟩ := Link.send_eq_error refused
      exact attended.of_party found rfl rfl (fun other member _ => attended.kept other member) own
        (fun about => absurd rfl about) (fun exchange member => .inr ⟨exchange, member, rfl⟩)
  | @hear number index party heard message link found errand read =>
      have kept := attended.kept party (List.mem_of_getElem? found)
      have own := kept.hear errand read
      obtain ⟨exchange, there, session, -⟩ := kept.of_waiting errand
      obtain ⟨-, -, -, -, rfl⟩ := Link.next_eq_some read
      exact attended.of_reader found rfl there session (fun _ => rfl)
        (fun _ => rfl) own fun _ => attended.held number party found (by simp [errand])
  | @conclude number index party heard link found errand read =>
      have kept := attended.kept party (List.mem_of_getElem? found)
      have own := kept.conclude errand read
      obtain ⟨exchange, there, session, -⟩ := kept.of_waiting errand
      obtain ⟨-, -, -, -, same⟩ := Link.next_eq_none read
      subst same
      exact attended.of_reader found rfl there session (fun _ => rfl)
        (fun _ => rfl) own fun about => absurd rfl about
  | stop => exact attended.of_grows rfl rfl (.refl _)
  | look phase => exact attended.of_grows rfl rfl (.refl _)
  | @take index link exchange now phase accepted found =>
      obtain ⟨queue, first, rfl⟩ := Link.accept_eq_some accepted
      obtain ⟨exchange', found', queued⟩ := serving.exists_queued phase first
      have grows : Link.Grows { traffic.link with queue }
          ({ traffic.link with queue }.modify index fun exchange =>
            { exchange with stage := .taken }) := by
        refine Link.grows_modify fun other there => ?_
        obtain rfl := Option.some.inj (found'.symm.trans there)
        exact ⟨rfl, rfl, rfl, rfl, List.prefix_rfl, fun ended => by simp [queued] at ended⟩
      exact attended.of_grows rfl rfl ⟨grows.exchanges, id⟩
  | rest phase accepted => exact attended.of_grows rfl rfl (.refl _)
  | dry phase accepted => exact attended.of_grows rfl rfl (.refl _)
  | @write index message left phase =>
      obtain ⟨exchange, found, taken⟩ := serving.exists_taken phase
      rw [Link.write_eq found taken]
      refine attended.of_grows rfl rfl (Link.grows_modify fun other there => ?_)
      obtain rfl := Option.some.inj (found.symm.trans there)
      exact ⟨rfl, rfl, rfl, rfl, List.prefix_append _ _, fun ended => by simp [taken] at ended⟩
  | finish phase => exact attended.of_grows rfl rfl (Link.grows_finish _ _)
  | close phase =>
      have held : traffic.link.engineEnd = true := by rw [serving.engineEnd, phase]; rfl
      rw [Link.close_eq held]
      exact attended.of_grows rfl rfl ⟨(Link.Grows.refl traffic.link).exchanges, fun _ => rfl⟩
  | drop phase =>
      have grows := Link.grows_finishAll traffic.link traffic.link.queue
      exact attended.of_grows rfl (Link.connections_finishAll _ _) ⟨grows.exchanges, fun _ => rfl⟩

end Attended

theorem attended_of_reaches {capacity : Nat} {traffic : Traffic}
    (reached : Reaches (start capacity) traffic) : traffic.Attended := by
  induction reached with
  | refl => exact attended_start capacity
  | tail before next induction =>
      obtain ⟨waiting, serving⟩ := serving_of_reaches before
      exact induction.step serving next

end Traffic
end SqlEngine
