import SqlEngine.Proofs.Answers

/-!
# Errors are recognised again

An error travels as its wording, which names tables as the user has named them.  Whatever stands in
these names, the errors about tables are told from their wordings, and no other error that can come
of a statement is taken for one of them.
-/

namespace SqlEngine

theorem Scan.strip?_eq_append_iff {expected chars rest : List Char} :
    strip? (· == ·) expected chars = some rest ↔ chars = expected ++ rest := by
  refine ⟨eq_append_of_strip?, fun split => strip?_eq_some.mpr ⟨expected, split, ?_⟩⟩
  simp [List.forall₂_same]

namespace Error

variable {text name other : String} {error : Error}

/-- What stands between a beginning and an end makes up the text with them. -/
theorem between?_eq_some {beginning ending middle : String} :
    between? beginning ending text = some middle ↔ text = beginning ++ middle ++ ending := by
  simp only [between?, Option.bind_eq_bind, Option.bind_eq_some_iff, Scan.strip?_eq_append_iff,
    Option.pure_def, Option.some.injEq]
  constructor
  · rintro ⟨rest, front, reversed, back, rfl⟩
    have ended := congrArg List.reverse back
    rw [List.reverse_reverse, List.reverse_append, List.reverse_reverse] at ended
    apply String.toList_injective
    simp [front, ended]
  · rintro rfl
    refine ⟨middle.toList ++ ending.toList, by simp, middle.toList.reverse, by simp, by simp⟩

/-! ## Wordings that stand for errors -/

theorem message_notFound (name : String) :
    (notFound name).message = "relation '" ++ name ++ "' not found" :=
  rfl

theorem message_alreadyExists (name : String) :
    (alreadyExists name).message = "relation '" ++ name ++ "' already exists" :=
  rfl

/-- The two wordings about tables end in other letters. -/
theorem message_notFound_ne (name other : String) :
    (notFound name).message ≠ (alreadyExists other).message := by
  intro same
  have ended := congrArg (fun text => text.toList.reverse) same
  simp [message_notFound, message_alreadyExists] at ended

theorem notFound_of_message (same : (notFound name).message = (notFound other).message) :
    name = other := by
  simpa [message_notFound] using same

theorem alreadyExists_of_message
    (same : (alreadyExists name).message = (alreadyExists other).message) : name = other := by
  simpa [message_alreadyExists] using same

/-- What a text stands for, by the wording that it has. -/
theorem ofRemote_cases (text : String) :
    (∃ name, ofRemote text = .notFound name ∧ text = (notFound name).message) ∨
    (∃ name, ofRemote text = .alreadyExists name ∧ text = (alreadyExists name).message) ∨
    ((∀ name, text ≠ (notFound name).message ∧ text ≠ (alreadyExists name).message) ∧
      ofRemote text = if text = engineStopped.message then engineStopped else remote text) := by
  unfold ofRemote
  cases missing : between? "relation '" "' not found" text with
  | some name => exact .inl ⟨name, rfl, between?_eq_some.mp missing⟩
  | none =>
      cases present : between? "relation '" "' already exists" text with
      | some name => exact .inr (.inl ⟨name, rfl, between?_eq_some.mp present⟩)
      | none =>
          refine .inr (.inr ⟨fun name => ⟨fun same => ?_, fun same => ?_⟩, rfl⟩)
          · exact nomatch missing.symm.trans (between?_eq_some.mpr same)
          · exact nomatch present.symm.trans (between?_eq_some.mpr same)

theorem ofRemote_eq_notFound_iff :
    ofRemote text = .notFound name ↔ text = (notFound name).message := by
  obtain ⟨found, told, rfl⟩ | ⟨found, told, rfl⟩ | ⟨other, told⟩ := ofRemote_cases text
  · rw [told, notFound.injEq]
    exact ⟨fun same => same ▸ rfl, notFound_of_message⟩
  · simp [told, (message_notFound_ne name found).symm]
  · rw [told]
    split <;> simp [(other name).1]

theorem ofRemote_eq_alreadyExists_iff :
    ofRemote text = .alreadyExists name ↔ text = (alreadyExists name).message := by
  obtain ⟨found, told, rfl⟩ | ⟨found, told, rfl⟩ | ⟨other, told⟩ := ofRemote_cases text
  · simp [told, message_notFound_ne found name]
  · rw [told, alreadyExists.injEq]
    exact ⟨fun same => same ▸ rfl, alreadyExists_of_message⟩
  · rw [told]
    split <;> simp [(other name).2]

/-- Every text is the wording of the error that it stands for. -/
theorem message_ofRemote (text : String) : (ofRemote text).message = text := by
  obtain ⟨name, told, same⟩ | ⟨name, told, same⟩ | ⟨-, told⟩ := ofRemote_cases text
  · rw [told, ← same]
  · rw [told, ← same]
  · rw [told]
    split
    · exact ‹text = _›.symm
    · rfl

/-! ## Errors that can come of a statement -/

/-- No wording of another error that can come of a statement is one about a table. -/
theorem IsOrdinary.exists_of_message (ordinary : error.IsOrdinary) {ending : String}
    (ends : ending = "' not found" ∨ ending = "' already exists")
    (same : error.message = "relation '" ++ name ++ ending) :
    (∃ name, error = .notFound name) ∨ ∃ name, error = .alreadyExists name := by
  have chars := congrArg String.toList same
  have ended := congrArg List.reverse chars
  unfold message at chars ended
  -- The others begin with other letters, but for two that end with other words.
  cases error with
  | notFound name => exact .inl ⟨name, rfl⟩
  | alreadyExists name => exact .inr ⟨name, rfl⟩
  | parse fault => simp at chars
  | shape fault =>
      have begins := ShapeFault.IsOrdinary.head_message ordinary
      rw [chars] at begins
      simp at begins
  | columnCountMismatch => simp at chars
  | typeMismatch => simp at chars
  | constraint fault => simp at chars
  | unsupported feature => rcases ends with rfl | rfl <;> simp at ended
  | unimplemented feature => rcases ends with rfl | rfl <;> simp at ended
  | noCell place => simp [toString] at chars
  | _ => cases ordinary

/-- An error that can come of a statement has the wording of a missing table if it is that error. -/
theorem IsOrdinary.message_eq_notFound_iff (ordinary : error.IsOrdinary) :
    error.message = (notFound name).message ↔ error = .notFound name := by
  refine ⟨fun same => ?_, fun same => congrArg message same⟩
  obtain ⟨found, rfl⟩ | ⟨found, rfl⟩ := ordinary.exists_of_message (.inl rfl) same
  · rw [notFound_of_message same]
  · exact absurd same.symm (message_notFound_ne name found)

theorem IsOrdinary.message_eq_alreadyExists_iff (ordinary : error.IsOrdinary) :
    error.message = (alreadyExists name).message ↔ error = .alreadyExists name := by
  refine ⟨fun same => ?_, fun same => congrArg message same⟩
  obtain ⟨found, rfl⟩ | ⟨found, rfl⟩ := ordinary.exists_of_message (.inr rfl) same
  · exact absurd same (message_notFound_ne found name)
  · rw [alreadyExists_of_message same]

/-- Every text is the wording of the error that it stands for.  The error that a session makes of a
request of which an error is told is one about a table if the engine has met that very error, with the
name of the table, and it never says that the engine has stopped. -/
theorem kept_on_the_way :
    (∀ text, (ofRemote text).message = text) ∧
    ∀ (now : Timestamp) (database : Database) (request : Request) (error : Error),
      (request.run now database).reported = some error →
      ∃ decoded,
        ChangeResult.ofMessages (request.run now database).messages = .error decoded ∧
        RowSet.ofMessages (request.run now database).messages = .error decoded ∧
        (∀ name, decoded = .notFound name ↔ error = .notFound name) ∧
        (∀ name, decoded = .alreadyExists name ↔ error = .alreadyExists name) ∧
        decoded ≠ .engineStopped := by
  refine ⟨message_ofRemote, fun now database request error told => ?_⟩
  have ordinary : error.IsOrdinary := Request.ordinary_of_run told
  refine ⟨ofRemote error.message, ChangeResult.ofMessages_of_reported told,
    RowSet.ofMessages_of_reported told, fun name => ?_, fun name => ?_, ordinary.ofRemote_ne⟩
  · rw [ofRemote_eq_notFound_iff, ordinary.message_eq_notFound_iff]
  · rw [ofRemote_eq_alreadyExists_iff, ordinary.message_eq_alreadyExists_iff]

/-- A missing table whose name has the wording of a table that is there. -/
theorem missing_table_with_odd_name :
    let now := Date.atMidnight ⟨1970, 1, 1, by decide⟩
    let request := Request.script "DROP TABLE \x60a' already exists\x60"
    (request.run now Database.empty).reported = some (.notFound "a' already exists") ∧
      ChangeResult.ofMessages (request.run now Database.empty).messages =
        .error (.notFound "a' already exists") := by
  intro now request
  have failed : (request.run now Database.empty).reported =
      some (.notFound "a' already exists") := by
    decide +kernel
  obtain ⟨decoded, told, -, missing, -⟩ := kept_on_the_way.2 now Database.empty request _ failed
  exact ⟨failed, told.trans (congrArg Except.error ((missing _).mpr rfl))⟩

end Error
end SqlEngine
