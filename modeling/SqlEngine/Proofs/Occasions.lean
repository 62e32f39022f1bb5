import SqlEngine.Proofs.Replies
import SqlEngine.Registry

/-!
# Requests and their limits

What a session is told of a request depends on the occasion as well: where its limit passes, it is told
that, whether the request has come to the engine or not.  An engine that has stopped refuses all
requests at once, so that no limit passes.
-/

namespace SqlEngine

namespace Occasion

/-- Whether a session with or without a limit hears the answer to its request. -/
def InTime (limit : Option Duration) (occasion : Occasion) : Prop :=
  limit = none ∨ occasion.wait = .answered

/-- Whether a request of a session with or without a limit comes to the engine. -/
def Comes (limit : Option Duration) (occasion : Occasion) : Prop :=
  limit = none ∨ occasion.wait ≠ .dropped

variable {limit : Option Duration} {occasion : Occasion}

instance : Decidable (occasion.InTime limit) :=
  inferInstanceAs (Decidable (_ ∨ _))

instance : Decidable (occasion.Comes limit) :=
  inferInstanceAs (Decidable (_ ∨ _))

theorem InTime.comes (inTime : occasion.InTime limit) : occasion.Comes limit :=
  inTime.imp id fun answered => by simp [answered]

/-- What a session is told when messages come back. -/
def tell (limit : Option Duration) (occasion : Occasion) (messages : List Message) :
    Except Error (List Message) :=
  match limit, occasion.wait with
  | some limit, .late => .error (.timeout limit)
  | some limit, .dropped => .error (.timeout limit)
  | _, _ => .ok messages

theorem tell_of_inTime (inTime : occasion.InTime limit) (messages : List Message) :
    occasion.tell limit messages = .ok messages := by
  rcases inTime with rfl | answered
  · rfl
  · simp [tell, answered]

theorem tell_of_passed {limit : Duration} (passed : ¬ occasion.InTime (some limit))
    (messages : List Message) : occasion.tell (some limit) messages = .error (.timeout limit) := by
  unfold tell
  cases wait : occasion.wait with
  | answered => exact absurd (.inr wait) passed
  | late => rfl
  | dropped => rfl

/-- There is a limit where an answer is not heard. -/
theorem exists_of_not_inTime (passed : ¬ occasion.InTime limit) : ∃ length, limit = some length :=
  Option.ne_none_iff_exists'.mp fun none => passed (.inl none)

end Occasion

namespace Registry

variable {registry : Registry} {session : Session} {server : Server}

/-- A request that comes to an engine is run, and its session is told of it unless the limit passes. -/
theorem request_of_running (found : registry.server? session = some server)
    (running : server.engine.running = true) (occasion : Occasion) (request : Request) :
    let outcome := request.run occasion.now server.engine.database
    registry.request occasion session request =
      (occasion.tell server.timeout outcome.messages,
        if occasion.Comes server.timeout then
          registry.modify session.server fun held =>
            { held with engine := server.engine.behind outcome }
        else registry) := by
  obtain ⟨now, wait⟩ := occasion
  simp only [Registry.request, found, Engine.serve, running, Server.limit?, if_true,
    Occasion.tell, Occasion.Comes]
  cases server.timeout with
  | none => simp
  | some limit => cases wait <;> simp

/-- An engine that has stopped refuses a request and is left as it was. -/
theorem request_of_stopped (found : registry.server? session = some server)
    (stopped : server.engine.running = false) (occasion : Occasion) (request : Request) :
    registry.request occasion session request = (.error .engineStopped, registry) := by
  have same : registry.servers.modify session.server
      (fun held => { held with engine := server.engine }) = registry.servers := by
    refine List.ext_getElem? fun number => ?_
    rw [List.getElem?_modify]
    split
    · subst number
      have there : registry.servers[session.server]? = some server := found
      rw [there]
      rfl
    · simp
  simp [Registry.request, found, Engine.serve, stopped, Server.limit?, modify, same]

/-- A request changes nothing but the engine that runs it. -/
theorem request_cases (occasion : Occasion) (registry : Registry) (session : Session)
    (request : Request) :
    (registry.request occasion session request).2 = registry ∨
    ∃ (server : Server) (outcome : Outcome), registry.servers[session.server]? = some server ∧
      (registry.request occasion session request).2 =
        registry.modify session.server fun held =>
          { held with engine := server.engine.behind outcome } := by
  cases found : registry.server? session with
  | none => exact .inl (by simp [Registry.request, found])
  | some server =>
      cases running : server.engine.running with
      | false => exact .inl (by rw [request_of_stopped found running])
      | true =>
          rw [request_of_running found running]
          dsimp only
          split
          · exact .inr ⟨server, _, found, rfl⟩
          · exact .inl rfl

/-- What a session is told of a script by an engine that runs. -/
theorem exec_of_running (found : registry.server? session = some server)
    (running : server.engine.running = true) (occasion : Occasion) (text : String) :
    (registry.exec occasion session text).1 =
      (occasion.tell server.timeout
        (server.engine.database.run occasion.now text).messages).bind ChangeResult.ofMessages := by
  simp [exec, request_of_running found running, Request.run]

theorem query_of_running (found : registry.server? session = some server)
    (running : server.engine.running = true) (occasion : Occasion) (text : String) :
    (registry.query occasion session text).1 =
      (occasion.tell server.timeout
        (server.engine.database.run occasion.now text).messages).bind RowSet.ofMessages := by
  simp [query, request_of_running found running, Request.run]

end Registry
end SqlEngine
