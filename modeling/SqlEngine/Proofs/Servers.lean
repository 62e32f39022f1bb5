import Mathlib.Data.List.Perm.Basic
import SqlEngine.Proofs.Answers

/-!
# The books of a registry

Servers are started, given out, stopped and forgotten while sessions on them come and go in any
order.  Whatever happens, the registry knows each server by its own connection string, each server
knows how many sessions are open on it, and a session stays with the server on which it was opened.
-/

namespace SqlEngine

/-- A registry with the sessions on its servers that are open. -/
structure Office where
  /-- The registry. -/
  registry : Registry := {}
  /-- The open sessions, in the order in which they were opened. -/
  sessions : List Session := []

namespace Office

/-- What can be asked of an office. -/
inductive Errand where
  /-- For the server of a connection string. -/
  | connector (text : String)
  /-- For a session for a connection string. -/
  | openSession (text : String)
  /-- To stop the server of a connection string and forget it. -/
  | close (text : String)
  /-- To stop and forget all servers. -/
  | shutdown
  /-- For a session on a server. -/
  | connect (server : Nat)
  /-- To stop a server. -/
  | stop (server : Nat)
  /-- To end the session that is open at a place. -/
  | closeSession (place : Nat)
  /-- To run a request of the session that is open at a place. -/
  | request (place : Nat) (request : Request)

/-- The office behind an attempt to open a session. -/
def enter (office : Office) (answer : Except Error Session × Registry) : Office where
  registry := answer.2
  sessions := office.sessions ++ answer.1.toOption.toList

/-- The office behind an errand. -/
def perform (occasion : Occasion) (office : Office) : Errand → Office
  | .connector text => { office with registry := (office.registry.connector text).2 }
  | .openSession text => office.enter (office.registry.openSession text)
  | .close text => { office with registry := (office.registry.close text).2 }
  | .shutdown => { office with registry := office.registry.shutdown }
  | .connect server => office.enter (office.registry.connect server)
  | .stop server => { office with registry := office.registry.stop server }
  | .closeSession place =>
    match office.sessions[place]? with
    | some session =>
      { registry := office.registry.closeSession session
        sessions := office.sessions.eraseIdx place }
    | none => office
  | .request place request =>
    match office.sessions[place]? with
    | some session => { office with registry := (office.registry.request occasion session request).2 }
    | none => office

/-- The office behind several errands, each on some occasion. -/
def run (office : Office) (errands : List (Occasion × Errand)) : Office :=
  errands.foldl (fun office (occasion, errand) => office.perform occasion errand) office

end Office

/-! ## The books -/

/-- What is on the books about a server. -/
structure Account where
  /-- Its connection string. -/
  key : String
  /-- The fields of its connection string. -/
  fields : ConnectionString
  /-- The number of sessions that it takes to be open. -/
  sessions : Int

/-- What is on the books about a server. -/
def Server.account (server : Server) : Account :=
  ⟨server.key, server.fields, server.sessions⟩

/-- What is on the books about all servers ever started. -/
def Registry.accounts (registry : Registry) : List Account :=
  registry.servers.map Server.account

/-- The number of sessions on a server. -/
def Session.countOn (sessions : List Session) (server : Nat) : Nat :=
  sessions.countP (·.server = server)

/-- Whether the books are right. -/
structure Balanced (registered : List (String × Nat)) (accounts : List Account)
    (sessions : List Session) : Prop where
  /-- No connection string is known twice. -/
  distinct : (registered.map (·.1)).Nodup
  /-- A server is known by its own connection string. -/
  known : ∀ key number, (key, number) ∈ registered →
    ∃ account, accounts[number]? = some account ∧ account.key = key
  /-- A server has a connection string that stands for itself, and its fields. -/
  parsed : ∀ account ∈ accounts, ConnectionString.key account.key = account.key ∧
    ConnectionString.parse account.key = .ok account.fields
  /-- A server knows how many sessions are open on it. -/
  counted : ∀ number (account : Account), accounts[number]? = some account →
    account.sessions = Session.countOn sessions number
  /-- Sessions are open on servers only. -/
  housed : ∀ session ∈ sessions, session.server < accounts.length

theorem Session.countOn_append (sessions : List Session) (session : Session) (server : Nat) :
    countOn (sessions ++ [session]) server =
      countOn sessions server + if session.server = server then 1 else 0 := by
  simp [countOn, List.countP_append, List.countP_singleton]

theorem Session.countOn_eraseIdx {sessions : List Session} {place : Nat} {session : Session}
    (found : sessions[place]? = some session) (server : Nat) :
    countOn sessions server =
      countOn (sessions.eraseIdx place) server + if session.server = server then 1 else 0 := by
  obtain ⟨inside, rfl⟩ := List.getElem?_eq_some_iff.mp found
  have perm := (List.getElem_cons_eraseIdx_perm inside).countP_eq (·.server = server)
  rw [countOn, ← perm, List.countP_cons, countOn]
  simp

namespace ConnectionString

theorem key_key (text : String) : key (key text) = key text := by
  unfold key
  split
  · rfl
  · rfl

theorem parse_key (text : String) : parse (key text) = parse text := by
  simp only [parse, key_key]

end ConnectionString

namespace Balanced

variable {registered : List (String × Nat)} {accounts : List Account} {sessions : List Session}

theorem nil : Balanced [] [] [] :=
  ⟨List.nodup_nil, by simp, by simp, by simp, by simp⟩

variable (balanced : Balanced registered accounts sessions)

include balanced

/-- Servers are forgotten. -/
theorem forget {kept : List (String × Nat)} (fewer : kept.Sublist registered) :
    Balanced kept accounts sessions where
  distinct := balanced.distinct.sublist (fewer.map _)
  known key number member := balanced.known key number (fewer.subset member)
  parsed := balanced.parsed
  counted := balanced.counted
  housed := balanced.housed

/-- A server is started for a connection string that is not known. -/
theorem start {key : String} {fields : ConnectionString}
    (fresh : key ∉ registered.map (·.1)) (proper : ConnectionString.key key = key)
    (parsed : ConnectionString.parse key = .ok fields) :
    Balanced ((key, accounts.length) :: registered) (accounts ++ [⟨key, fields, 0⟩]) sessions where
  distinct := List.nodup_cons.mpr ⟨fresh, balanced.distinct⟩
  known name number member := by
    rcases List.mem_cons.mp member with same | member
    · obtain ⟨rfl, rfl⟩ := Prod.mk.inj same
      exact ⟨⟨name, fields, 0⟩, by simp, rfl⟩
    · obtain ⟨account, found, named⟩ := balanced.known name number member
      have inside := (List.getElem?_eq_some_iff.mp found).1
      exact ⟨account, (List.getElem?_append_left inside).trans found, named⟩
  parsed := List.forall_mem_append.mpr
    ⟨balanced.parsed, List.forall_mem_singleton.mpr ⟨proper, parsed⟩⟩
  counted number account found := by
    rcases Nat.lt_or_ge number accounts.length with inside | outside
    · rw [List.getElem?_append_left inside] at found
      exact balanced.counted number account found
    · rw [List.getElem?_append_right outside, List.getElem?_singleton] at found
      split at found
      · obtain rfl := Option.some.inj found
        have nobody : Session.countOn sessions number = 0 := by
          refine List.countP_eq_zero.mpr fun session member here => ?_
          have housed := balanced.housed session member
          simp only [decide_eq_true_eq] at here
          omega
        simp [nobody]
      · contradiction
  housed session member := by
    have housed := balanced.housed session member
    simp only [List.length_append]
    omega

/-- The number of sessions that a server takes to be open changes with those that are.  Opening and
ending a session are the two cases. -/
theorem recount {number : Nat} {change : Account → Account} {sessions' : List Session}
    (same : ∀ account, (change account).key = account.key ∧
      (change account).fields = account.fields)
    (changed : ∀ account : Account, account.sessions = Session.countOn sessions number →
      (change account).sessions = Session.countOn sessions' number)
    (others : ∀ place, number ≠ place →
      Session.countOn sessions' place = Session.countOn sessions place)
    (housed : ∀ session ∈ sessions', session.server < accounts.length) :
    Balanced registered (accounts.modify number change) sessions' where
  distinct := balanced.distinct
  known key place member := by
    obtain ⟨account, found, named⟩ := balanced.known key place member
    rw [List.getElem?_modify, found]
    by_cases here : number = place
    · exact ⟨change account, by simp [here], (same account).1.trans named⟩
    · exact ⟨account, by simp [here], named⟩
  parsed account member := by
    obtain ⟨place, found⟩ := List.mem_iff_getElem?.mp member
    rw [List.getElem?_modify, Option.map_eq_map, Option.map_eq_some_iff] at found
    obtain ⟨old, found, rfl⟩ := found
    have parsed := balanced.parsed old (List.mem_of_getElem? found)
    split
    · rw [(same old).1, (same old).2]
      exact parsed
    · exact parsed
  counted place account found := by
    rw [List.getElem?_modify, Option.map_eq_map, Option.map_eq_some_iff] at found
    obtain ⟨old, found, rfl⟩ := found
    have counted := balanced.counted place old found
    split
    · rename_i here
      subst here
      exact changed old counted
    · rename_i other
      rw [others place other]
      exact counted
  housed := by simpa using housed

/-- A session is opened on a server. -/
theorem openSession {session : Session} (inside : session.server < accounts.length) :
    Balanced registered
      (accounts.modify session.server fun account =>
        { account with sessions := account.sessions + 1 }) (sessions ++ [session]) := by
  refine balanced.recount (fun _ => ⟨rfl, rfl⟩) (fun account counted => ?_) (fun place other => ?_)
    (List.forall_mem_append.mpr ⟨balanced.housed, List.forall_mem_singleton.mpr inside⟩)
  · simp [Session.countOn_append, counted]
  · simp [Session.countOn_append, other]

/-- A session is ended. -/
theorem closeSession {place : Nat} {session : Session} (found : sessions[place]? = some session) :
    Balanced registered
      (accounts.modify session.server fun account =>
        { account with sessions := account.sessions - 1 }) (sessions.eraseIdx place) := by
  refine balanced.recount (fun _ => ⟨rfl, rfl⟩) (fun account counted => ?_) (fun number other => ?_)
    fun session member => balanced.housed session (List.mem_of_mem_eraseIdx member)
  · rw [Session.countOn_eraseIdx found, if_pos rfl] at counted
    simp [counted]
  · rw [Session.countOn_eraseIdx found, if_neg other, Nat.add_zero]

end Balanced

/-! ## What becomes of a server -/

/-- What can become of a server: it is known as before, and does not run again once it has
stopped. -/
structure Server.Lasts (before after : Server) : Prop where
  /-- The connection string is the same. -/
  key : after.key = before.key
  /-- A server that has stopped stays so. -/
  stopped : before.engine.running = false → after.engine.running = false

/-- Whether all servers of a registry are there in another. -/
def Registry.Lasts (before after : Registry) : Prop :=
  ∀ (number : Nat) (server : Server), before.servers[number]? = some server →
    ∃ server', after.servers[number]? = some server' ∧ server.Lasts server'

namespace Registry

variable {registry middle after : Registry} {number : Nat} {server : Server} {key : String}

theorem getElem?_servers_modify (registry : Registry) (number : Nat) (change : Server → Server)
    (place : Nat) : (registry.modify number change).servers[place]? =
      registry.servers[place]?.map fun server =>
        if number = place then change server else server := by
  rw [modify, List.getElem?_modify]
  cases registry.servers[place]? <;> by_cases here : number = place <;> simp [here]

theorem accounts_modify {change : Server → Server} {effect : Account → Account}
    (same : ∀ server, registry.servers[number]? = some server →
      (change server).account = effect server.account) :
    (registry.modify number change).accounts = registry.accounts.modify number effect := by
  refine List.ext_getElem? fun place => ?_
  rw [accounts, accounts, List.getElem?_map, getElem?_servers_modify, List.getElem?_modify,
    List.getElem?_map]
  cases found : registry.servers[place]? with
  | none => simp
  | some server =>
      by_cases here : number = place
      · subst here
        simp [same server found]
      · simp [here]

/-- A change to a server that the books say nothing of. -/
theorem accounts_modify_of_same {change : Server → Server}
    (same : ∀ server, registry.servers[number]? = some server →
      (change server).account = server.account) :
    (registry.modify number change).accounts = registry.accounts := by
  have kept : (registry.modify number change).accounts = registry.accounts.modify number id :=
    accounts_modify same
  rw [kept, List.modify_id]

theorem accounts_stopAll (registry : Registry) (numbers : List Nat) :
    (numbers.foldl stop registry).accounts = registry.accounts := by
  induction numbers generalizing registry with
  | nil => rfl
  | cons number numbers induction =>
      exact (induction _).trans (accounts_modify_of_same fun _ _ => rfl)

theorem registered_stopAll (registry : Registry) (numbers : List Nat) :
    (numbers.foldl stop registry).registered = registry.registered := by
  induction numbers generalizing registry with
  | nil => rfl
  | cons number numbers induction => exact induction _

theorem lookup_eq_some_iff (distinct : (registry.registered.map (·.1)).Nodup) :
    registry.registered.lookup key = some number ↔ (key, number) ∈ registry.registered := by
  rw [List.lookup_eq_some_iff]
  constructor
  · rintro ⟨front, back, split, -⟩
    simp [split]
  · intro member
    obtain ⟨front, back, split⟩ := List.append_of_mem member
    refine ⟨front, back, split, fun entry inside => ?_⟩
    rw [split, List.map_append, List.nodup_append] at distinct
    exact bne_iff_ne.mpr (distinct.2.2 _ (List.mem_map_of_mem inside) key (by simp)).symm

theorem Lasts.refl (registry : Registry) : registry.Lasts registry :=
  fun _ server found => ⟨server, found, rfl, id⟩

theorem Lasts.trans (front : registry.Lasts middle) (back : middle.Lasts after) :
    registry.Lasts after := by
  intro number server found
  obtain ⟨server', found', lasts⟩ := front number server found
  obtain ⟨server'', found'', lasts'⟩ := back number server' found'
  exact ⟨server'', found'', lasts'.key.trans lasts.key, lasts'.stopped ∘ lasts.stopped⟩

/-- An attempt to open a session on a server is on the books only if it succeeds. -/
theorem connect_cases (registry : Registry) (number : Nat) :
    (∃ error, (registry.connect number).1 = .error error ∧
      (registry.connect number).2.registered = registry.registered ∧
      (registry.connect number).2.accounts = registry.accounts) ∨
    ∃ session, (registry.connect number).1 = .ok session ∧ session.server = number ∧
      number < registry.accounts.length ∧
      (registry.connect number).2.registered = registry.registered ∧
      (registry.connect number).2.accounts = registry.accounts.modify number fun account =>
        { account with sessions := account.sessions + 1 } := by
  cases found : registry.servers[number]? with
  | none =>
      have refused : registry.connect number = (.error .engineStopped, registry) := by
        simp only [connect, found]
      rw [refused]
      exact .inl ⟨_, rfl, rfl, rfl⟩
  | some server =>
      have only (held : Server) (found' : registry.servers[number]? = some held) :
          held = server := Option.some.inj (found'.symm.trans found)
      have inside : number < registry.accounts.length := by
        simpa [accounts] using (List.getElem?_eq_some_iff.mp found).1
      simp only [connect, found, Server.openSession, Engine.checkRunning]
      cases running : server.engine.running with
      | false =>
          refine .inl ⟨_, rfl, rfl, accounts_modify_of_same fun held found' => ?_⟩
          rw [only held found']
          rfl
      | true =>
          refine .inr ⟨_, rfl, rfl, inside, rfl, accounts_modify fun held found' => ?_⟩
          rw [only held found']
          rfl

/-- The books say nothing of requests. -/
theorem request_books (occasion : Occasion) (registry : Registry) (session : Session)
    (request : Request) :
    (registry.request occasion session request).2.registered = registry.registered ∧
      (registry.request occasion session request).2.accounts = registry.accounts := by
  rcases request_cases occasion registry session request with same | ⟨server, outcome, -, same⟩
  · rw [same]
    exact ⟨rfl, rfl⟩
  · rw [same]
    exact ⟨rfl, accounts_modify_of_same fun _ _ => rfl⟩

end Registry

namespace Office

variable {office : Office} {occasion : Occasion}

/-- Whether the books of an office are right. -/
def IsBalanced (office : Office) : Prop :=
  Balanced office.registry.registered office.registry.accounts office.sessions

namespace IsBalanced

variable (balanced : office.IsBalanced)

include balanced

/-- Servers are forgotten, and the books about them do not change. -/
theorem of_same {registry : Registry}
    (fewer : registry.registered.Sublist office.registry.registered)
    (same : registry.accounts = office.registry.accounts) :
    IsBalanced { office with registry } := by
  unfold IsBalanced
  rw [same]
  exact Balanced.forget balanced fewer

theorem connector (text : String) :
    IsBalanced { office with registry := (office.registry.connector text).2 } := by
  simp only [Registry.connector]
  split
  · exact balanced
  · rename_i fields parsed
    split
    · exact balanced
    · have forgotten := Balanced.forget balanced
        (List.filter_sublist (p := fun entry => entry.1 != ConnectionString.key text))
      have fresh : ConnectionString.key text ∉ ((office.registry.registered.filter
          fun entry => entry.1 != ConnectionString.key text).map (·.1)) := by
        simp
      have started := forgotten.start fresh (ConnectionString.key_key text)
        ((ConnectionString.parse_key text).trans parsed)
      simpa [IsBalanced, Registry.start, Registry.forget, Registry.accounts, Server.start,
        Server.account] using started

theorem connect (number : Nat) :
    (office.enter (office.registry.connect number)).IsBalanced := by
  rcases office.registry.connect_cases number with
    ⟨error, refused, same⟩ | ⟨session, opened, rfl, inside, same⟩
  · simpa [IsBalanced, enter, refused, same, Except.toOption] using balanced
  · simpa [IsBalanced, enter, opened, same, Except.toOption] using
      Balanced.openSession balanced inside

theorem openSession (text : String) :
    (office.enter (office.registry.openSession text)).IsBalanced := by
  have connected := balanced.connector text
  unfold Registry.openSession
  split
  · rename_i same
    rw [same] at connected
    simpa [enter, Except.toOption] using connected
  · rename_i number middle same
    rw [same] at connected
    exact connected.connect number

theorem perform (occasion : Occasion) (errand : Errand) :
    (office.perform occasion errand).IsBalanced := by
  cases errand with
  | connector text => exact balanced.connector text
  | openSession text => exact balanced.openSession text
  | close text =>
      simp only [Office.perform, Registry.close]
      split
      · exact balanced
      · exact balanced.of_same List.filter_sublist (Registry.accounts_modify_of_same fun _ _ => rfl)
  | shutdown =>
      refine balanced.of_same ?_ (Registry.accounts_stopAll _ _)
      rw [Registry.shutdown, Registry.registered_stopAll]
      exact List.nil_sublist _
  | connect server => exact balanced.connect server
  | stop server =>
      exact balanced.of_same (List.Sublist.refl _) (Registry.accounts_modify_of_same fun _ _ => rfl)
  | closeSession place =>
      simp only [Office.perform]
      split
      · rename_i session found
        have ended : (office.registry.closeSession session).accounts =
            office.registry.accounts.modify session.server fun account =>
              { account with sessions := account.sessions - 1 } :=
          Registry.accounts_modify fun _ _ => rfl
        have closed := Balanced.closeSession balanced found
        rwa [← ended] at closed
      · exact balanced
  | request place request =>
      simp only [Office.perform]
      split
      · obtain ⟨registered, accounts⟩ := office.registry.request_books occasion _ request
        exact balanced.of_same (registered ▸ List.Sublist.refl _) accounts
      · exact balanced

theorem run (errands : List (Occasion × Errand)) : (office.run errands).IsBalanced := by
  induction errands generalizing office with
  | nil => exact balanced
  | cons first errands induction => exact induction (balanced.perform first.1 first.2)

/-- A server that is known is there, under its own connection string. -/
theorem known {key : String} {number : Nat} (member : (key, number) ∈ office.registry.registered) :
    ∃ server, office.registry.servers[number]? = some server ∧ server.key = key := by
  obtain ⟨account, found, named⟩ := Balanced.known balanced key number member
  rw [Registry.accounts, List.getElem?_map, Option.map_eq_some_iff] at found
  obtain ⟨server, found, rfl⟩ := found
  exact ⟨server, found, named⟩

end IsBalanced
end Office

namespace Office

end Office
end SqlEngine
