import SqlEngine.Answer
import SqlEngine.Engine
import SqlEngine.Prepared
import SqlEngine.Settings.Basic
import SqlEngine.Transaction

/-!
# Registries

A registry starts one server for each connection string and gives the same one out as long as its
engine runs.  Sessions share the server on which they were opened, and keep it even when the registry
has forgotten it.  Servers are numbered in the order in which they were started.

A session may have a limit to how long it waits for an answer.  Whether a limit passes is not up to the
session: it is given with the occasion of a request, like the time of day.
-/

namespace SqlEngine

/-- An engine with what sessions need to know of it. -/
structure Server where
  /-- The connection string under which the server is known. -/
  key : String
  /-- The fields of the connection string. -/
  fields : ConnectionString
  /-- The engine. -/
  engine : Engine
  /-- The longest time a request may take. -/
  timeout : Option Duration
  /-- The number of open sessions. -/
  sessions : Int := 0
  /-- The number of the next session. -/
  nextSession : Nat := 1

namespace Server

/-- The longest time a session of the server waits.  A request to an engine that has stopped is refused
at once. -/
def limit? (server : Server) : Option Duration :=
  if server.engine.running then server.timeout else none

/-- A new server for a connection string. -/
def start (settings : Settings) (key : String) (fields : ConnectionString) : Server :=
  { key, fields, engine := .start fields, timeout := fields.timeout <|> settings.timeout }

/-- The server when its engine has stopped. -/
def stop (server : Server) : Server :=
  { server with engine := server.engine.stop }

/-- The server with one session less. -/
def closeSession (server : Server) : Server :=
  { server with sessions := server.sessions - 1 }

/-- The name of a new session, if the engine runs, and the server with it. -/
def openSession (server : Server) : Except Error String × Server :=
  let server' := { server with nextSession := server.nextSession + 1 }
  match server.engine.checkRunning with
  | .error error => (.error error, server')
  | .ok () =>
    (.ok s!"{server.key}#{server.nextSession}", { server' with sessions := server.sessions + 1 })

end Server

/-- An open session. -/
structure Session where
  /-- The name. -/
  name : String
  /-- The number of its server. -/
  server : Nat
  deriving DecidableEq

/-- How long the answer to a request takes, next to the limit that its session may have. -/
inductive Wait where
  /-- It comes in time. -/
  | answered
  /-- The limit passes while the request is with the engine, which runs it all the same. -/
  | late
  /-- The limit passes before the request comes to the engine, and so it never does. -/
  | dropped
  deriving DecidableEq

/-- The circumstances of a request. -/
structure Occasion where
  /-- The time at which it is run. -/
  now : Timestamp
  /-- How long the answer takes. -/
  wait : Wait := .answered
  deriving DecidableEq

/-- All servers ever started, and those that are given out. -/
structure Registry where
  /-- The settings of the process. -/
  settings : Settings := {}
  /-- The servers, by number. -/
  servers : List Server := []
  /-- The numbers of the servers that are given out, by connection string. -/
  registered : List (String × Nat) := []

namespace Registry

/-- The registry with one server changed. -/
def modify (registry : Registry) (number : Nat) (change : Server → Server) : Registry :=
  { registry with servers := registry.servers.modify number change }

/-- The number of the running server of a connection string, if there is one. -/
def running? (registry : Registry) (key : String) : Option Nat := do
  let number ← registry.registered.lookup key
  let server ← registry.servers[number]?
  if server.engine.running then some number else none

/-- The registry without the server of a connection string. -/
def forget (registry : Registry) (key : String) : Registry :=
  { registry with registered := registry.registered.filter (·.1 != key) }

/-- The registry with a new server for a connection string. -/
def start (registry : Registry) (key : String) (fields : ConnectionString) : Registry :=
  let rest := registry.forget key
  { rest with
    servers := registry.servers ++ [Server.start registry.settings key fields]
    registered := (key, registry.servers.length) :: rest.registered }

/-- The number of the server for a connection string, which is started if none runs. -/
def connector (registry : Registry) (text : String) : Except Error Nat × Registry :=
  match ConnectionString.parse text with
  | .error error => (.error error, registry)
  | .ok fields =>
    let key := ConnectionString.key text
    match registry.running? key with
    | some number => (.ok number, registry)
    | none => (.ok registry.servers.length, registry.start key fields)

/-- A new session on a server. -/
def connect (registry : Registry) (number : Nat) : Except Error Session × Registry :=
  match registry.servers[number]? with
  | none => (.error .engineStopped, registry)
  | some server =>
    let (opened, server) := server.openSession
    (opened.map fun name => ⟨name, number⟩, registry.modify number fun _ => server)

/-- A new session for a connection string. -/
def openSession (registry : Registry) (text : String) : Except Error Session × Registry :=
  match registry.connector text with
  | (.error error, registry) => (.error error, registry)
  | (.ok number, registry) => registry.connect number

/-- Ends a session. -/
def closeSession (registry : Registry) (session : Session) : Registry :=
  registry.modify session.server Server.closeSession

/-- Stops a server. -/
def stop (registry : Registry) (number : Nat) : Registry :=
  registry.modify number Server.stop

/-- Stops the server of a connection string and forgets it; says whether there was one. -/
def close (registry : Registry) (text : String) : Bool × Registry :=
  let key := ConnectionString.key text
  match registry.registered.lookup key with
  | none => (false, registry)
  | some number => (true, (registry.forget key).stop number)

/-- Stops and forgets all servers. -/
def shutdown (registry : Registry) : Registry :=
  let numbers := registry.registered.map (·.2)
  numbers.foldl stop { registry with registered := [] }

/-- The number of servers that are given out. -/
def engineCount (registry : Registry) : Nat :=
  registry.registered.length

/-- The registry in a report. -/
def report (registry : Registry) : String :=
  let settings := registry.settings
  "Driver \x7b config: EngineConfig \x7b channel_capacity: " ++ toString settings.channelCapacity
    ++ ", log_level: " ++ Text.escaped settings.logLevel
    ++ ", default_timeout_ms: " ++ toString settings.defaultTimeoutMs
    ++ " \x7d, engines: " ++ toString registry.engineCount ++ " \x7d"

/-- The server of a session. -/
def server? (registry : Registry) (session : Session) : Option Server :=
  registry.servers[session.server]?

/-- The messages that come back on a request of a session, unless its limit passes first. -/
def request (occasion : Occasion) (registry : Registry) (session : Session) (request : Request) :
    Except Error (List Message) × Registry :=
  match registry.server? session with
  | none => (.error .engineStopped, registry)
  | some server =>
    let (messages, engine) := server.engine.serve occasion.now request
    let served := registry.modify session.server fun server => { server with engine }
    match server.limit?, occasion.wait with
    | some limit, .late => (.error (.timeout limit), served)
    | some limit, .dropped => (.error (.timeout limit), registry)
    | _, _ => (messages, served)

/-- Runs a script for the outcome of its last change. -/
def exec (occasion : Occasion) (registry : Registry) (session : Session) (script : String) :
    Except Error ChangeResult × Registry :=
  let (messages, registry) := registry.request occasion session (.script script)
  (messages.bind ChangeResult.ofMessages, registry)

/-- Runs a script for its last rows. -/
def query (occasion : Occasion) (registry : Registry) (session : Session) (script : String) :
    Except Error RowSet × Registry :=
  let (messages, registry) := registry.request occasion session (.script script)
  (messages.bind RowSet.ofMessages, registry)

/-- Runs a template with arguments for the outcome of its last change. -/
def execPrepared (occasion : Occasion) (registry : Registry) (session : Session) (template : String)
    (arguments : List Value) : Except Error ChangeResult × Registry :=
  match Prepared.bind template arguments with
  | .error error => (.error error, registry)
  | .ok script => registry.exec occasion session script

/-- Runs a template with arguments for its last rows. -/
def queryPrepared (occasion : Occasion) (registry : Registry) (session : Session) (template : String)
    (arguments : List Value) : Except Error RowSet × Registry :=
  match Prepared.bind template arguments with
  | .error error => (.error error, registry)
  | .ok script => registry.query occasion session script

/-- Applies a transaction.  One without scripts does not come to the engine. -/
def commit (occasion : Occasion) (registry : Registry) (session : Session)
    (transaction : Transaction) : Except Error ChangeResult × Registry :=
  if transaction.pending.isEmpty then (.ok {}, registry)
  else
    let (messages, registry) := registry.request occasion session (.batch transaction.pending)
    (messages.bind ChangeResult.ofMessages, registry)

end Registry
end SqlEngine
