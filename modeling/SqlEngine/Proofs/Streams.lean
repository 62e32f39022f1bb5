import SqlEngine.Proofs.Records

/-!
# What comes over a link

Requests are taken in the order in which they were sent, and what is read of the messages of a
request was written back to it.
-/

namespace SqlEngine
namespace Link

variable {link after : Link} {number : Nat} {events : List Event} {capacity : Nat}

theorem numbers_zipIdx {α : Type} (entries : List α) :
    entries.zipIdx.map (·.2) = List.range entries.zipIdx.length := by
  simp [List.range_eq_range']

namespace Records

variable (records : Records capacity events link)

include records

theorem accepting_eq_false : link.accepting = false ↔
    (.close, .done) ∈ events ∨ (.dropEngine, .done) ∈ events := by
  rw [← Bool.not_eq_true, records.accepting]
  tauto

/-- Requests wait in the order in which they were sent, but for those that were taken. -/
theorem queue_eq (held : (.dropEngine, .done) ∉ events) :
    link.queue = ((askedIn events).drop (acceptedIn events).length).map (·.2) := by
  have counted := records.queue (records.held.mpr held)
  have numbers : (askedIn events).map (·.2) = List.range link.exchanges.length := by
    rw [records.asked, numbers_zipIdx]
    simp
  obtain ⟨rest, split⟩ := records.accepted
  rw [← numbers, ← split, List.map_append, List.append_cancel_left_eq] at counted
  rw [counted, ← split, List.drop_left]

/-- What is read of the messages of a request is the front of what is written. -/
theorem heardIn_prefix (number : Nat) : heardIn events number <+: writtenIn events number := by
  cases found : link.exchanges[number]? with
  | none =>
      have silent := records.filter_request?_eq_nil (List.getElem?_eq_none_iff.mp found)
      simp [heardIn, silent]
  | some exchange =>
      have tells := records.tells number exchange found
      rw [tells.heard, ← tells.written]
      exact List.take_prefix _ _

/-- Nothing is written back to a request before it is taken. -/
theorem writtenIn_eq_nil (untaken : number ∉ (acceptedIn events).map (·.2)) :
    writtenIn events number = [] := by
  cases found : link.exchanges[number]? with
  | none =>
      have silent := records.filter_request?_eq_nil (List.getElem?_eq_none_iff.mp found)
      simp [writtenIn, silent]
  | some exchange =>
      have tells := records.tells number exchange found
      exact tells.written.symm.trans (tells.untaken untaken).2

/-- A stream ends when all is read and nothing can be written any more. -/
theorem all_heard (noMore : link.perform (.next number) = some (.noMore, after)) :
    heardIn events number = writtenIn events number ∧ IsOver events number := by
  cases moves_of_perform noMore with
  | noMore found ended all =>
      have tells := records.tells number _ found
      rw [tells.heard, ← tells.written, List.take_of_length_le all]
      exact ⟨rfl, tells.ended ended⟩

/-- After the end of a stream nothing is written to it. -/
theorem all_heard_of_told (told : (.next number, .noMore) ∈ events) :
    heardIn events number = writtenIn events number := by
  have inside := records.known _ told number rfl
  have tells := records.tells number _ (List.getElem?_eq_getElem inside)
  rw [tells.heard, ← tells.written, (tells.told told).2, List.take_length]

/-- While there is an engine, it can take the first request that it has not taken. -/
theorem accept_first {session : String} {request : Request}
    (held : (.dropEngine, .done) ∉ events)
    (first : (askedIn events)[(acceptedIn events).length]? =
      some ((some session, request), number)) :
    ∃ after, link.perform .accept = some (.accepted number session request, after) := by
  have waiting := records.queue_eq held
  obtain ⟨inside, here⟩ := List.getElem?_eq_some_iff.mp first
  rw [List.drop_eq_getElem_cons inside, here, List.map_cons] at waiting
  have there := List.mem_of_getElem? first
  rw [records.asked] at there
  have found := List.mem_zipIdx_iff_getElem?.mp there
  rw [List.getElem?_map, Option.map_eq_some_iff] at found
  obtain ⟨exchange, found, same⟩ := found
  simp only [Prod.mk.injEq, Option.some.injEq] at same
  obtain ⟨rfl, rfl⟩ := same
  simp [perform, Link.accept, records.held.mpr held, waiting, found]

end Records

/-- Replies reach the right requests.  Whatever calls are made on a link, and in whatever order: no
more requests wait than there is room for; they are taken in the order in which they were sent, each
once and with the name that its connection was made with.  A call that is refused or given up leaves
nothing behind.  What is read of the messages of a request is the front of what is written back to
this request, after it was taken; and a stream ends only when all is read and nothing can be written
any more.  Connections and requests are refused just from the moment at which the link is closed or
the engine lets go of its end; what was sent before a close can still be taken. -/
theorem replies_reach_requests (capacity : Nat) (acts : List Act) :
    let events := ((ofCapacity capacity).record acts).1
    let link := ((ofCapacity capacity).record acts).2
    (link.queue.length ≤ max capacity 1 ∧
      ((.dropEngine, .done) ∉ events →
        link.queue = ((askedIn events).drop (acceptedIn events).length).map (·.2))) ∧
    (acceptedIn events <+: askedIn events ∧
      (askedIn events).map (·.2) = List.range (askedIn events).length ∧
      (connectedIn events).map (·.2) = List.range (connectedIn events).length) ∧
    (∀ act outcome after, link.perform act = some (outcome, after) →
      (∃ error, outcome = .refused error) ∨ outcome = .pending → after = link) ∧
    (∀ number, heardIn events number <+: writtenIn events number ∧
      (number ∉ (acceptedIn events).map (·.2) → writtenIn events number = []) ∧
      (∀ after, link.perform (.next number) = some (.noMore, after) →
        heardIn events number = writtenIn events number ∧ IsOver events number) ∧
      ((.next number, .noMore) ∈ events → heardIn events number = writtenIn events number)) ∧
    (∀ act outcome after, act.Asks → link.perform act = some (outcome, after) →
      ((∃ error, outcome = .refused error) ↔
        (.close, .done) ∈ events ∨ (.dropEngine, .done) ∈ events) ∧
      ∀ error, outcome = .refused error → error = .engineStopped) ∧
    ∀ number session request, (.dropEngine, .done) ∉ events →
      (askedIn events)[(acceptedIn events).length]? = some ((some session, request), number) →
        ∃ after, link.perform .accept = some (.accepted number session request, after) := by
  intro events link
  have records : Records capacity events link := (records_ofCapacity capacity).record acts
  refine ⟨⟨records.capacity ▸ records.room, records.queue_eq⟩, ⟨records.accepted, ?_, ?_⟩,
    fun _ _ _ => eq_of_unmet, fun number => ⟨records.heardIn_prefix number,
      records.writtenIn_eq_nil, fun _ => records.all_heard, records.all_heard_of_told⟩,
    fun act outcome after asks made => ?_, fun number session request => records.accept_first⟩
  · rw [records.asked, numbers_zipIdx]
  · rw [records.connected, numbers_zipIdx]
  · rw [← records.accepting_eq_false]
    refine ⟨⟨?_, fun shut => ⟨_, refused_of_shut asks made shut⟩⟩, ?_⟩
    · rintro ⟨error, rfl⟩
      exact shut_of_refused made
    · rintro error rfl
      have shut := refused_of_shut asks made (shut_of_refused made)
      cases shut
      rfl

/-- Two sessions with room for one request: the first is answered and hears so to the end, and the
second, which had to try again, can still be answered after the link is closed, but a third cannot
come. -/
theorem two_requests_and_close :
    let acts : List Act := [.connect "a", .connect "b", .send 0 (.script "x"),
      .send 1 (.script "y"), .accept, .send 1 (.script "y"), .write 0 (.result 0 1), .dropWriter 0,
      .next 0, .next 0, .close]
    let events := ((ofCapacity 1).record acts).1
    let link := ((ofCapacity 1).record acts).2
    heardIn events 0 = writtenIn events 0 ∧ IsOver events 0 ∧ writtenIn events 1 = [] ∧
      (∃ after, link.perform .accept = some (.accepted 1 "b" (.script "y"), after)) ∧
      link.perform (.connect "c") = some (.refused .engineStopped, link) := by
  intro acts events link
  obtain ⟨-, -, unmet, messages, asking, taking⟩ := replies_reach_requests 1 acts
  have noMore : link.perform (.next 0) = some (.noMore, link) := by decide
  have closed : (.close, .done) ∈ events := by decide
  obtain ⟨heard, isOver⟩ := (messages 0).2.2.1 link noMore
  refine ⟨heard, isOver, (messages 1).2.1 (by decide), ?_, ?_⟩
  · exact taking 1 "b" (.script "y") (by decide) (by decide)
  · obtain ⟨⟨outcome, after⟩, made⟩ := Option.isSome_iff_exists.mp
      (by decide : (link.perform (.connect "c")).isSome = true)
    have answer := asking _ outcome after (.inl ⟨"c", rfl⟩) made
    obtain ⟨error, rfl⟩ := answer.1.mpr (.inl closed)
    rw [made, answer.2 error rfl, unmet _ _ _ made (.inl ⟨error, rfl⟩)]

end Link
end SqlEngine
