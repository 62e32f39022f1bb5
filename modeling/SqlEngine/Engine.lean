import SqlEngine.ConnectionString
import SqlEngine.Execution.Run
import SqlEngine.Link

/-!
# Engines

An engine owns a database and runs the requests that come over its link one after the other.  A
request that is cut short ends the engine, without a message.  Once it has stopped it runs nothing any
more.
-/

namespace SqlEngine

/-- What comes of a request. -/
def Request.run (now : Timestamp) (database : Database) : Request → Outcome
  | script text => database.run now text
  | batch texts => database.runBatch now texts

/-- An engine. -/
structure Engine where
  /-- The name of the engine. -/
  name : String
  /-- Whether the engine runs. -/
  running : Bool := true
  /-- The database of the engine. -/
  database : Database := .empty

namespace Engine

/-- A new engine for the database of a connection string. -/
def start (fields : ConnectionString) : Engine :=
  { name := if fields.database.isEmpty then "engine" else "engine-" ++ fields.database }

/-- The engine when it has stopped. -/
def stop (engine : Engine) : Engine :=
  { engine with running := false }

/-- The engine behind a request. -/
def behind (engine : Engine) (outcome : Outcome) : Engine :=
  { engine with database := outcome.database, running := engine.running && !outcome.crashes }

/-- Refuses a connection to an engine that has stopped. -/
def checkRunning (engine : Engine) : Except Error Unit :=
  if engine.running then .ok () else .error .engineStopped

/-- The messages that come back on a request that nothing else waits for, and the engine behind it. -/
def serve (now : Timestamp) (engine : Engine) (request : Request) :
    Except Error (List Message) × Engine :=
  if engine.running then
    let outcome := request.run now engine.database
    (.ok outcome.messages, engine.behind outcome)
  else (.error .engineStopped, engine)

/-- Takes the next request off a link, runs it, and writes all of its messages back.  If the run is cut
short, the end of the engine is let go of. -/
def serveLink (now : Timestamp) (engine : Engine) (link : Link) : Engine × Link :=
  match link.accept with
  | (.ready (some number), link) =>
    match link.exchanges[number]? with
    | some exchange =>
      let outcome := exchange.request.run now engine.database
      let link := outcome.messages.foldl (fun link message => (link.write number message).2) link
      let link := link.finish number
      (engine.behind outcome, if outcome.crashes then link.dropEngine else link)
    | none => (engine, link)
  | (.ready none, link) => (engine.stop, link)
  | (_, link) => (engine, link)

end Engine
end SqlEngine
