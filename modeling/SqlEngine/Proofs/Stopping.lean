import SqlEngine.Proofs.Attendance

/-!
# The stop

An engine that has been told to stop takes no request any more, but for one that it was just about
to take.  Whatever its sessions are about at that moment, it can come to its end, and all of them to
theirs: nothing that they wait for can fail to come.
-/

namespace SqlEngine
namespace Traffic

variable {capacity : Nat} {traffic after : Traffic}

/-- How the requests taken are those taken before, or one more. -/
def TakesNoMore (before after : Traffic) : Prop :=
  after.taken = before.taken ∧ (after.phase = .taking → before.phase = .taking) ∨
    before.phase = .taking ∧ after.phase ≠ .taking ∧
      ∃ intake, after.taken = before.taken ++ [intake]

theorem stopping_of_step (stopping : traffic.stopping = true) (next : Step traffic after) :
    after.stopping = true := by
  cases next <;> first | exact stopping | rfl

/-- Only an engine that was about to look into the queue takes a request, and then it is about to
write. -/
theorem takesNoMore_of_step (stopping : traffic.stopping = true) (next : Step traffic after) :
    TakesNoMore traffic after := by
  cases next with
  | look phase => exact .inl ⟨rfl, fun taking => by simp [stopping] at taking⟩
  | take now phase accepted found => exact .inr ⟨phase, Phase.noConfusion, _, rfl⟩
  | rest phase accepted => exact .inl ⟨rfl, fun _ => phase⟩
  | dry phase accepted => exact .inl ⟨rfl, fun _ => phase⟩
  | write phase => exact .inl ⟨rfl, Phase.noConfusion⟩
  | finish phase => exact .inl ⟨rfl, Phase.noConfusion⟩
  | close phase => exact .inl ⟨rfl, Phase.noConfusion⟩
  | drop phase => exact .inl ⟨rfl, Phase.noConfusion⟩
  | _ => exact .inl ⟨rfl, id⟩

theorem TakesNoMore.trans {middle : Traffic} (front : TakesNoMore traffic middle)
    (back : TakesNoMore middle after) : TakesNoMore traffic after := by
  rcases front with ⟨same, phase⟩ | ⟨phase, gone, intake, more⟩
  · rcases back with ⟨same', phase'⟩ | ⟨phase', gone', intake, more⟩
    · exact .inl ⟨same'.trans same, phase ∘ phase'⟩
    · exact .inr ⟨phase phase', gone', intake, same ▸ more⟩
  · rcases back with ⟨same', phase'⟩ | ⟨phase', -, -, -⟩
    · exact .inr ⟨phase, gone ∘ phase', intake, same'.trans more⟩
    · -- With the signal up the engine does not come back to the queue, so it takes no second one.
      exact absurd phase' gone

/-- At most one request is taken after the engine has been told to stop. -/
theorem takesNoMore_of_stopping (stopping : traffic.stopping = true)
    (reached : Reaches traffic after) : after.stopping = true ∧ TakesNoMore traffic after := by
  induction reached with
  | refl => exact ⟨stopping, .inl ⟨rfl, id⟩⟩
  | tail _ next induction =>
      obtain ⟨stopping', noMore⟩ := induction
      exact ⟨stopping_of_step stopping' next, noMore.trans (takesNoMore_of_step stopping' next)⟩

/-! ## The engine comes to its end -/

/-- An engine can come to its end while its sessions do nothing. -/
def Ends (traffic : Traffic) : Prop :=
  ∃ final, Reaches traffic final ∧ final.phase = .gone ∧ final.parties = traffic.parties

theorem Ends.of_step (next : Step traffic after) (parties : after.parties = traffic.parties)
    (ends : after.Ends) : traffic.Ends := by
  obtain ⟨final, reached, gone, same⟩ := ends
  exact ⟨final, .head next reached, gone, same.trans parties⟩

theorem ends_of_closing (phase : traffic.phase = .closing) : traffic.Ends := by
  refine .of_step (.close phase) rfl (.of_step (.drop rfl) rfl ?_)
  exact ⟨_, .refl, rfl, rfl⟩

theorem ends_of_looking (stopping : traffic.stopping = true) (phase : traffic.phase = .looking) :
    traffic.Ends := by
  refine .of_step (.look phase) rfl (ends_of_closing ?_)
  simp [stopping]

theorem ends_of_answering (stopping : traffic.stopping = true) {index : Nat} {left : List Message}
    (phase : traffic.phase = .answering index left) : traffic.Ends := by
  induction left generalizing traffic with
  | nil => exact .of_step (.finish phase) rfl (ends_of_looking stopping rfl)
  | cons message left induction =>
      exact .of_step (.write phase) rfl (induction stopping rfl)

/-- An engine that holds its end of the link is never kept waiting when it looks into the queue. -/
theorem ends_of_taking (stopping : traffic.stopping = true) {waiting : List (String × Request)}
    (serving : traffic.Serving waiting) (phase : traffic.phase = .taking) : traffic.Ends := by
  have held : traffic.link.engineEnd = true := by rw [serving.engineEnd, phase]; rfl
  cases queue : traffic.link.queue with
  | nil =>
      have accepted : traffic.link.accept =
          (if traffic.link.canGrow then .pending else .ready none, traffic.link) := by
        simp [Link.accept, held, queue]
      by_cases grow : traffic.link.canGrow
      · rw [if_pos grow] at accepted
        exact .of_step (.rest phase accepted) rfl (ends_of_looking stopping rfl)
      · rw [if_neg grow] at accepted
        exact .of_step (.dry phase accepted) rfl (ends_of_closing rfl)
  | cons index queue' =>
      obtain ⟨exchange, found, -⟩ := serving.exists_queued phase queue
      have accepted : traffic.link.accept = (.ready (some index),
          { traffic.link with queue := queue' }.modify index fun exchange =>
            { exchange with stage := .taken }) := by
        simp [Link.accept, held, queue]
      have there : { traffic.link with queue := queue' }.exchanges[index]? = some exchange := found
      have found' := Link.getElem?_modify_self there
        fun exchange => { exchange with stage := .taken }
      let now := Date.atMidnight ⟨1970, 1, 1, by decide⟩
      exact .of_step (.take now phase accepted found') rfl (ends_of_answering stopping rfl)

theorem ends_of_stopping (stopping : traffic.stopping = true)
    (reached : Reaches (start capacity) traffic) : traffic.Ends := by
  obtain ⟨waiting, serving⟩ := serving_of_reaches reached
  cases phase : traffic.phase with
  | looking => exact ends_of_looking stopping phase
  | taking => exact ends_of_taking stopping serving phase
  | answering index left => exact ends_of_answering stopping phase
  | closing => exact ends_of_closing phase
  | closed => exact .of_step (.drop phase) rfl ⟨_, .refl, rfl, rfl⟩
  | gone => exact ⟨traffic, .refl, phase, rfl⟩

/-! ## The sessions come to theirs -/

/-- A session can come to an end of what it is about, and no other has to do anything for it. -/
def Concludes (traffic : Traffic) (number : Nat) (party : Party) : Prop :=
  ∃ final party', Reaches traffic final ∧ final.phase = traffic.phase ∧
    final.parties = traffic.parties.set number party' ∧ party'.asked = party.asked ∧
    party'.errand = .none

theorem concludes_of_sending (attended : traffic.Attended) {number : Nat} {party : Party}
    {request : Request} (found : traffic.parties[number]? = some party)
    (errand : party.errand = .sending request) (closed : traffic.link.accepting = false) :
    traffic.Concludes number party := by
  have held := attended.held number party found (by simp [errand])
  obtain ⟨⟨session, held'⟩, held⟩ := Option.isSome_iff_exists.mp held
  have refused : traffic.link.send number request =
      (.ready (.error .engineStopped), traffic.link) := by
    simp [Link.send, held, closed]
  exact ⟨_, _, .single (.refuse found errand refused), rfl, rfl, rfl, rfl⟩

theorem listens_of_waiting (attended : traffic.Attended) {number index : Nat} {party : Party}
    {heard : List Message} {exchange : Exchange} (found : traffic.parties[number]? = some party)
    (errand : party.errand = .waiting index heard)
    (there : traffic.link.exchanges[index]? = some exchange) :
    exchange.listening = true ∧ exchange.read = heard.length := by
  have kept := attended.kept party (List.mem_of_getElem? found)
  obtain ⟨_, there', -, listening, read, -⟩ := kept.of_waiting errand
  obtain rfl := Option.some.inj (there.symm.trans there')
  exact ⟨listening, read⟩

/-- A session that waits on a request that has ended reads what is left to read, and has it all. -/
theorem concludes_of_waiting (reached : Reaches (start capacity) traffic)
    (gone : traffic.phase = .gone) {number index : Nat} {party : Party} {heard : List Message}
    {exchange : Exchange} (found : traffic.parties[number]? = some party)
    (errand : party.errand = .waiting index heard)
    (there : traffic.link.exchanges[index]? = some exchange) {count : Nat}
    (left : exchange.written.length = heard.length + count) : traffic.Concludes number party := by
  -- The induction is on the number of messages that are left to read.
  induction count generalizing traffic party heard exchange with
  | zero =>
      obtain ⟨listening, read⟩ :=
        listens_of_waiting (attended_of_reaches reached) found errand there
      obtain ⟨waiting, serving⟩ := serving_of_reaches reached
      have stage : exchange.stage = .ended := by
        refine serving.ended_of_gone gone exchange.dealing ?_
        exact List.mem_map_of_mem (List.mem_of_getElem? there)
      have finished : exchange.written[exchange.read]? = none := by
        rw [List.getElem?_eq_none_iff]
        omega
      have met : traffic.link.next index = (.ready none, traffic.link) := by
        simp [Link.next, there, listening, finished, stage]
      exact ⟨_, _, .single (.conclude found errand met), rfl, rfl, rfl, rfl⟩
  | succ count induction =>
      obtain ⟨listening, read⟩ :=
        listens_of_waiting (attended_of_reaches reached) found errand there
      have more : exchange.read < exchange.written.length := by omega
      have met : traffic.link.next index = (.ready (some exchange.written[exchange.read]),
          traffic.link.modify index fun exchange =>
            { exchange with read := exchange.read + 1 }) := by
        simp [Link.next, there, listening, more]
      have next := Step.hear found errand met
      have inside := (List.getElem?_eq_some_iff.mp found).1
      have there' := Link.getElem?_modify_self there
        fun exchange => { exchange with read := exchange.read + 1 }
      obtain ⟨final, party', reached', phase, parties, asked, idle⟩ :=
        induction (reached.tail next) gone (List.getElem?_set_self inside) rfl there'
          (by simp only [List.length_append, List.length_singleton]; omega)
      exact ⟨final, party', .head next reached', phase, by rw [parties]; simp, asked, idle⟩

theorem concludes_of_gone (reached : Reaches (start capacity) traffic)
    (gone : traffic.phase = .gone) {number : Nat} {party : Party}
    (found : traffic.parties[number]? = some party) : traffic.Concludes number party := by
  have attended := attended_of_reaches reached
  obtain ⟨waiting, serving⟩ := serving_of_reaches reached
  cases errand : party.errand with
  | none =>
      refine ⟨traffic, party, .refl, rfl, ?_, rfl, errand⟩
      obtain ⟨inside, rfl⟩ := List.getElem?_eq_some_iff.mp found
      rw [List.set_getElem_self]
  | sending request =>
      refine concludes_of_sending attended found errand ?_
      rw [serving.accepting, gone]
      rfl
  | waiting index heard =>
      obtain ⟨exchange, there, -, -, -, part⟩ :=
        (attended.kept party (List.mem_of_getElem? found)).of_waiting errand
      have left := Nat.add_sub_of_le part.length_le
      exact concludes_of_waiting reached gone found errand there left.symm

/-- The sessions can come to their ends one after the other. -/
theorem all_conclude (reached : Reaches (start capacity) traffic) (gone : traffic.phase = .gone)
    (count : Nat) : ∃ final, Reaches traffic final ∧ final.phase = .gone ∧
      final.parties.map (·.asked) = traffic.parties.map (·.asked) ∧
      ∀ party ∈ final.parties.take count, party.errand = .none := by
  induction count with
  | zero => exact ⟨traffic, .refl, gone, rfl, by simp⟩
  | succ count induction =>
      obtain ⟨middle, reached', gone', asked, idle⟩ := induction
      cases found : middle.parties[count]? with
      | none =>
          have short := List.getElem?_eq_none_iff.mp found
          refine ⟨middle, reached', gone', asked, fun party member => idle party ?_⟩
          rw [List.take_of_length_le (by omega)] at member
          rwa [List.take_of_length_le short]
      | some party =>
          obtain ⟨final, party', further, phase, parties, asked', idle'⟩ :=
            concludes_of_gone (reached.trans reached') gone' found
          refine ⟨final, reached'.trans further, phase.trans gone', ?_, ?_⟩
          · rw [parties, map_set_of_eq found asked', asked]
          · intro other member
            rw [parties, List.mem_take_iff_getElem] at member
            obtain ⟨place, inside, rfl⟩ := member
            rw [List.getElem_set]
            split
            · exact idle'
            · refine idle _ (List.mem_take_iff_getElem.mpr ⟨place, ?_, rfl⟩)
              rw [List.length_set] at inside
              omega

/-- Every session can be answered all that it has asked once the engine has been told to stop. -/
theorem all_answered (stopping : traffic.stopping = true)
    (reached : Reaches (start capacity) traffic) :
    ∃ final, Reaches traffic final ∧ final.phase = .gone ∧
      final.parties.map (·.asked) = traffic.parties.map (·.asked) ∧
      ∀ party ∈ final.parties, party.errand = .none := by
  obtain ⟨middle, reached', gone, parties⟩ := ends_of_stopping stopping reached
  obtain ⟨final, further, gone', asked, idle⟩ :=
    all_conclude (reached.trans reached') gone middle.parties.length
  have length : final.parties.length = middle.parties.length := by
    simpa using congrArg List.length asked
  refine ⟨final, reached'.trans further, gone', parties ▸ asked, fun party member => ?_⟩
  exact idle party (by rwa [List.take_of_length_le (Nat.le_of_eq length)])

end Traffic
end SqlEngine
