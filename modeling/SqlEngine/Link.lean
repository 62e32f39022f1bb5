import SqlEngine.Reply

/-!
# Links

A link joins many sessions with one engine.  Requests wait in a queue that holds only so many; the
engine takes them out in the order in which they were sent and writes messages back, each to the
request that it took.  Connections and requests are numbered in the order of their making.  A call
that cannot be met at once says so and changes nothing.
-/

namespace SqlEngine

/-- What a session asks of an engine. -/
inductive Request where
  /-- To run a script. -/
  | script (text : String)
  /-- To run scripts as one. -/
  | batch (texts : List String)
  deriving DecidableEq

/-- The answer to a call that does not wait. -/
inductive Poll (α : Type) where
  /-- The call is met. -/
  | ready (value : α)
  /-- The call would have to wait. -/
  | pending
  /-- What the call is made on does not exist any more. -/
  | gone
  deriving DecidableEq

/-- Where a request stands. -/
inductive Stage where
  /-- In the queue. -/
  | queued
  /-- With the engine, which may write messages. -/
  | taken
  /-- No message can come any more. -/
  | ended
  deriving DecidableEq

/-- A connection of a session. -/
structure Connection where
  /-- The name of the session. -/
  session : String
  /-- Whether the connection is still held. -/
  held : Bool := true
  deriving DecidableEq

/-- A request with the messages written back. -/
structure Exchange where
  /-- The name of the session that asks. -/
  session : String
  /-- What it asks. -/
  request : Request
  /-- Where the request stands. -/
  stage : Stage := .queued
  /-- All messages written so far. -/
  written : List Message := []
  /-- How many of them were read. -/
  read : Nat := 0
  /-- Whether the session still listens. -/
  listening : Bool := true
  deriving DecidableEq

/-- A link. -/
structure Link where
  /-- How many requests can wait. -/
  capacity : Nat
  /-- Whether the engine takes further requests. -/
  accepting : Bool := true
  /-- Whether the end of the engine is still held. -/
  engineEnd : Bool := true
  /-- Whether the end that makes connections is still held. -/
  sessionEnd : Bool := true
  /-- The connections, by number. -/
  connections : List Connection := []
  /-- The requests sent, by number. -/
  exchanges : List Exchange := []
  /-- The numbers of the requests that wait, in order. -/
  queue : List Nat := []
  deriving DecidableEq

namespace Link

/-- A link with room for so many requests, and for one at least. -/
def ofCapacity (capacity : Nat) : Link :=
  { capacity := max capacity 1 }

/-- The link with one request changed. -/
def modify (link : Link) (number : Nat) (change : Exchange → Exchange) : Link :=
  { link with exchanges := link.exchanges.modify number change }

/-- The connection of a number, if it is still held. -/
def connection? (link : Link) (number : Nat) : Option Connection :=
  link.connections[number]?.filter (·.held)

/-- A new connection for a session. -/
def connect (link : Link) (session : String) : Poll (Except Error Nat) × Link :=
  if !link.sessionEnd then (.gone, link)
  else if !link.accepting then (.ready (.error .engineStopped), link)
  else
    (.ready (.ok link.connections.length),
      { link with connections := link.connections ++ [{ session }] })

/-- Whether requests on a connection are refused. -/
def isClosed (link : Link) (connection : Nat) : Poll Bool :=
  match link.connection? connection with
  | some _ => .ready !link.accepting
  | none => .gone

/-- Puts a request into the queue, if there is room. -/
def send (link : Link) (connection : Nat) (request : Request) : Poll (Except Error Nat) × Link :=
  match link.connection? connection with
  | none => (.gone, link)
  | some ⟨session, _⟩ =>
    if !link.accepting then (.ready (.error .engineStopped), link)
    else if link.queue.length < link.capacity then
      let number := link.exchanges.length
      (.ready (.ok number),
        { link with
          exchanges := link.exchanges ++ [{ session, request }]
          queue := link.queue ++ [number] })
    else (.pending, link)

/-- Whether a request can still come. -/
def canGrow (link : Link) : Bool :=
  link.accepting && (link.sessionEnd || link.connections.any (·.held))

/-- Takes the next request out of the queue; there is none once no more can come. -/
def accept (link : Link) : Poll (Option Nat) × Link :=
  if !link.engineEnd then (.gone, link)
  else
    match link.queue with
    | number :: queue =>
      (.ready (some number),
        { link with queue }.modify number fun exchange => { exchange with stage := .taken })
    | [] => (if link.canGrow then .pending else .ready none, link)

/-- Writes a message back to a request that the engine has taken.  Nobody needs to listen. -/
def write (link : Link) (number : Nat) (message : Message) : Poll Unit × Link :=
  match link.exchanges[number]? with
  | some { stage := .taken, .. } =>
    (.ready (),
      link.modify number fun exchange => { exchange with written := exchange.written ++ [message] })
  | _ => (.gone, link)

/-- Reads the next message written back to a request; there is none once no more can come. -/
def next (link : Link) (number : Nat) : Poll (Option Message) × Link :=
  match link.exchanges[number]? with
  | some exchange =>
    if !exchange.listening then (.gone, link)
    else
      match exchange.written[exchange.read]? with
      | some message =>
        (.ready (some message),
          link.modify number fun exchange => { exchange with read := exchange.read + 1 })
      | none => (if exchange.stage = .ended then .ready none else .pending, link)
  | none => (.gone, link)

/-- Refuses further requests; those that wait can still be taken. -/
def close (link : Link) : Poll Unit × Link :=
  if link.engineEnd then (.ready (), { link with accepting := false }) else (.gone, link)

/-- Ends a request: no message can be written back to it any more. -/
def finish (link : Link) (number : Nat) : Link :=
  link.modify number fun exchange => { exchange with stage := .ended }

/-- Lets go of the end of the engine.  The requests that wait end unanswered. -/
def dropEngine (link : Link) : Link :=
  let ended := link.queue.foldl finish link
  { ended with engineEnd := false, accepting := false, queue := [] }

/-- Lets go of the end that makes connections. -/
def dropSessions (link : Link) : Link :=
  { link with sessionEnd := false }

/-- Lets go of a connection. -/
def dropConnection (link : Link) (number : Nat) : Link :=
  { link with connections := link.connections.modify number fun held => { held with held := false } }

/-- Stops listening to the messages of a request. -/
def dropReplies (link : Link) (number : Nat) : Link :=
  link.modify number fun exchange => { exchange with listening := false }

end Link
end SqlEngine
