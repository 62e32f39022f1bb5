import Mathlib.Logic.Relation
import SqlEngine.Answer
import SqlEngine.Engine

/-!
# Traffic

Sessions ask and an engine answers, each at its own pace: a session has one request under way at a
time, waits while the queue is full, and reads its messages as they come; the engine looks for a
signal to stop, takes a request, runs it, and writes its messages one by one.  Any of them may make
the next step.  Of the queue it is only assumed that it keeps its order, loses nothing and doubles
nothing while the engine holds its end, and is lost when the engine lets go of it.  Sessions wait
without a limit, and ask nothing that breaks its reading.
-/

namespace SqlEngine

/-- Whether a text of a request breaks its reading. -/
def Request.breaks : Request → Bool
  | script text => Script.breaks text
  | batch texts => texts.any Script.breaks

/-- What a session is about. -/
inductive Errand where
  /-- Nothing. -/
  | none
  /-- It waits for room in the queue. -/
  | sending (request : Request)
  /-- It has sent a request and reads the messages that come back. -/
  | waiting (number : Nat) (heard : List Message)

/-- A session with all that it has asked and been answered. -/
structure Party where
  /-- The name of the session. -/
  name : String
  /-- Its requests, in order. -/
  asked : List Request := []
  /-- What came of those that are over. -/
  answers : List (Except Error (List Message)) := []
  /-- What it is about. -/
  errand : Errand := .none

/-- Where the engine is in its loop. -/
inductive Phase where
  /-- It is about to look for the signal to stop. -/
  | looking
  /-- It has seen no signal, and is about to look into the queue. -/
  | taking
  /-- It writes the messages of a request, of which some are left. -/
  | answering (number : Nat) (left : List Message)
  /-- It has left the loop. -/
  | closing
  /-- It refuses further requests. -/
  | closed
  /-- It has let go of its end of the link. -/
  | gone

/-- A request that the engine has taken. -/
structure Intake where
  /-- The time at which it was run. -/
  now : Timestamp
  /-- The name of the session that asks. -/
  session : String
  /-- What it asks. -/
  request : Request

/-- Sessions and an engine with a link between them. -/
structure Traffic where
  /-- The link. -/
  link : Link
  /-- The database of the engine. -/
  database : Database := .empty
  /-- Where the engine is. -/
  phase : Phase := .looking
  /-- Whether the engine has been told to stop. -/
  stopping : Bool := false
  /-- The sessions, by the numbers of their connections. -/
  parties : List Party := []
  /-- The requests that the engine has taken, in order. -/
  taken : List Intake := []

namespace Traffic

/-- An engine with an empty database that nobody is connected to. -/
def start (capacity : Nat) : Traffic :=
  { link := .ofCapacity capacity }

/-- Replacing an entry changes nothing of what the two have in common. -/
theorem map_set_of_eq {α β : Type} {f : α → β} {entries : List α} {place : Nat} {old new : α}
    (found : entries[place]? = some old) (same : f new = f old) :
    (entries.set place new).map f = entries.map f := by
  obtain ⟨inside, rfl⟩ := List.getElem?_eq_some_iff.mp found
  have inside' : place < (entries.map f).length := by simpa using inside
  rw [List.map_set, same, ← List.getElem_map f (h := inside'), List.set_getElem_self]

/-- The traffic with one session changed. -/
def setParty (traffic : Traffic) (number : Nat) (party : Party) : Traffic :=
  { traffic with parties := traffic.parties.set number party }

section SetParty

variable (traffic : Traffic) (number : Nat) (party : Party)

@[simp] theorem link_setParty : (traffic.setParty number party).link = traffic.link := rfl

@[simp] theorem database_setParty :
    (traffic.setParty number party).database = traffic.database := rfl

@[simp] theorem phase_setParty : (traffic.setParty number party).phase = traffic.phase := rfl

@[simp] theorem stopping_setParty :
    (traffic.setParty number party).stopping = traffic.stopping := rfl

@[simp] theorem taken_setParty : (traffic.setParty number party).taken = traffic.taken := rfl

@[simp] theorem parties_setParty :
    (traffic.setParty number party).parties = traffic.parties.set number party := rfl

end SetParty

/-- What can happen next. -/
inductive Step (traffic : Traffic) : Traffic → Prop where
  /-- A session opens a connection; no other has its name. -/
  | connect {name : String} {number : Nat} {link : Link}
      (fresh : ∀ party ∈ traffic.parties, party.name ≠ name)
      (opened : traffic.link.connect name = (.ready (.ok number), link)) :
      Step traffic { traffic with link, parties := traffic.parties ++ [{ name }] }
  /-- A session that is about nothing lets go of its connection. -/
  | leave {number : Nat} {party : Party} (found : traffic.parties[number]? = some party)
      (idle : party.errand = .none) :
      Step traffic { traffic with link := traffic.link.dropConnection number }
  /-- No further session can come. -/
  | dropSessions : Step traffic { traffic with link := traffic.link.dropSessions }
  /-- A session takes up a request. -/
  | ask {number : Nat} {party : Party} (request : Request)
      (found : traffic.parties[number]? = some party) (idle : party.errand = .none)
      (held : (traffic.link.connection? number).isSome) (whole : request.breaks = false) :
      Step traffic (traffic.setParty number
        { party with asked := party.asked ++ [request], errand := .sending request })
  /-- There is room in the queue for a request. -/
  | send {number index : Nat} {party : Party} {request : Request} {link : Link}
      (found : traffic.parties[number]? = some party) (errand : party.errand = .sending request)
      (sent : traffic.link.send number request = (.ready (.ok index), link)) :
      Step traffic
        (setParty { traffic with link } number { party with errand := .waiting index [] })
  /-- A request is refused. -/
  | refuse {number : Nat} {party : Party} {request : Request} {error : Error} {link : Link}
      (found : traffic.parties[number]? = some party) (errand : party.errand = .sending request)
      (refused : traffic.link.send number request = (.ready (.error error), link)) :
      Step traffic
        (setParty { traffic with link } number
          { party with answers := party.answers ++ [.error error], errand := .none })
  /-- A session reads a message. -/
  | hear {number index : Nat} {party : Party} {heard : List Message} {message : Message}
      {link : Link} (found : traffic.parties[number]? = some party)
      (errand : party.errand = .waiting index heard)
      (read : traffic.link.next index = (.ready (some message), link)) :
      Step traffic
        (setParty { traffic with link } number
          { party with errand := .waiting index (heard ++ [message]) })
  /-- A session has read all messages, and listens no longer. -/
  | conclude {number index : Nat} {party : Party} {heard : List Message} {link : Link}
      (found : traffic.parties[number]? = some party)
      (errand : party.errand = .waiting index heard)
      (read : traffic.link.next index = (.ready none, link)) :
      Step traffic
        (setParty { traffic with link := link.dropReplies index } number
          { party with answers := party.answers ++ [.ok heard], errand := .none })
  /-- The engine is told to stop. -/
  | stop : Step traffic { traffic with stopping := true }
  /-- The engine looks for the signal to stop. -/
  | look (phase : traffic.phase = .looking) :
      Step traffic { traffic with phase := if traffic.stopping then .closing else .taking }
  /-- The engine takes the next request, and runs it. -/
  | take {index : Nat} {link : Link} {exchange : Exchange} (now : Timestamp)
      (phase : traffic.phase = .taking)
      (accepted : traffic.link.accept = (.ready (some index), link))
      (found : link.exchanges[index]? = some exchange) :
      Step traffic
        { traffic with
          link
          database := (exchange.request.run now traffic.database).database
          phase := .answering index (exchange.request.run now traffic.database).messages
          taken := traffic.taken ++ [⟨now, exchange.session, exchange.request⟩] }
  /-- There is no request yet. -/
  | rest {link : Link} (phase : traffic.phase = .taking)
      (accepted : traffic.link.accept = (.pending, link)) :
      Step traffic { traffic with phase := .looking }
  /-- No request can come any more. -/
  | dry {link : Link} (phase : traffic.phase = .taking)
      (accepted : traffic.link.accept = (.ready none, link)) :
      Step traffic { traffic with phase := .closing }
  /-- The engine writes a message. -/
  | write {index : Nat} {message : Message} {left : List Message}
      (phase : traffic.phase = .answering index (message :: left)) :
      Step traffic
        { traffic with
          link := (traffic.link.write index message).2
          phase := .answering index left }
  /-- The engine is done with a request. -/
  | finish {index : Nat} (phase : traffic.phase = .answering index []) :
      Step traffic { traffic with link := traffic.link.finish index, phase := .looking }
  /-- The engine refuses further requests. -/
  | close (phase : traffic.phase = .closing) :
      Step traffic { traffic with link := traffic.link.close.2, phase := .closed }
  /-- The engine lets go of its end. -/
  | drop (phase : traffic.phase = .closed) :
      Step traffic { traffic with link := traffic.link.dropEngine, phase := .gone }

/-- What can happen in the course of time. -/
def Reaches : Traffic → Traffic → Prop :=
  Relation.ReflTransGen Step

end Traffic

/-! ## One after the other -/

namespace Intake

/-- The database behind a request. -/
def databaseBehind (database : Database) (intake : Intake) : Database :=
  (intake.request.run intake.now database).database

/-- The database behind requests that are run one after the other. -/
def serialDatabase (taken : List Intake) : Database :=
  taken.foldl databaseBehind .empty

/-- The messages of requests that are run one after the other, each with the name of the session
that asks. -/
def serialReplies (database : Database) : List Intake → List (String × List Message)
  | [] => []
  | intake :: taken =>
    (intake.session, (intake.request.run intake.now database).messages) ::
      serialReplies (intake.databaseBehind database) taken

/-- The requests of a session among those taken. -/
def requestsOf (taken : List Intake) (name : String) : List Request :=
  (taken.filter (·.session = name)).map (·.request)

/-- The messages for a session when the requests taken are run one after the other. -/
def repliesTo (taken : List Intake) (name : String) : List (List Message) :=
  ((serialReplies .empty taken).filter (·.1 = name)).map (·.2)

theorem serialDatabase_concat (taken : List Intake) (intake : Intake) :
    serialDatabase (taken ++ [intake]) = intake.databaseBehind (serialDatabase taken) := by
  simp [serialDatabase]

theorem serialReplies_append (database : Database) (front back : List Intake) :
    serialReplies database (front ++ back) =
      serialReplies database front ++ serialReplies (front.foldl databaseBehind database) back := by
  induction front generalizing database with
  | nil => rfl
  | cons intake front induction =>
      simp only [List.cons_append, serialReplies, induction, List.foldl_cons]

theorem serialReplies_concat (taken : List Intake) (intake : Intake) :
    serialReplies .empty (taken ++ [intake]) = serialReplies .empty taken ++
      [(intake.session, (intake.request.run intake.now (serialDatabase taken)).messages)] :=
  serialReplies_append .empty taken [intake]

end Intake
end SqlEngine
