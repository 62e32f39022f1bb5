import SqlEngine.Proofs.Encoding
import SqlEngine.Proofs.Layout

/-!
# The letters of words

The letters of a word are compared one by one, but cut off by their bytes.  Where the characters of a
text are letters too, both come to the same, and a word is read as it stands.  The KELVIN SIGN agrees
with the letter K and takes three bytes: a cut that should fall behind it falls inside it, unless the
word has two more letters.
-/

namespace SqlEngine
namespace Wording

open Grammar Scan

/-- Whether a text can be a word of the language. -/
def isPlain (expected : String) : Bool :=
  !expected.toList.isEmpty && expected.toList.all isLetter

/-! ## Single letters -/

theorem isLetter_iff {c : Char} :
    isLetter c = true ↔
      65 ≤ c.toNat ∧ c.toNat ≤ 90 ∨ 97 ≤ c.toNat ∧ c.toNat ≤ 122 ∨ c.toNat = 95 := by
  have underscore : (c == '_') = true ↔ c.toNat = 95 := by
    rw [beq_iff_eq]
    exact ⟨fun same => same ▸ rfl, fun same => Char.ext (UInt32.toNat_inj.mp same)⟩
  rw [isLetter, Bool.or_eq_true, Text.isAlpha_iff, underscore, or_assoc]

theorem utf8Size_of_letter {c : Char} (letter : isLetter c = true) : c.utf8Size = 1 := by
  have bounds := isLetter_iff.mp letter
  refine Char.utf8Size_eq_one_iff.mpr (UInt32.le_iff_toNat_le.mpr ?_)
  change c.toNat ≤ 127
  omega

theorem small_of_ne {c : Char} (other : c ≠ '\u212a') : small c = c.toLower :=
  if_neg other

theorem small_of_letter {c : Char} (letter : isLetter c = true) : small c = c.toLower := by
  refine small_of_ne ?_
  rintro rfl
  exact absurd letter (by decide)

/-- What agrees with a letter is this letter in any case, or the sign that counts as a K. -/
theorem letter_of_small_eq {letter c : Char} (plain : isLetter letter = true)
    (same : small letter = small c) :
    isLetter c = true ∧ letter.toLower = c.toLower ∨ c = '\u212a' ∧ letter.toLower = 'k' := by
  rw [small_of_letter plain] at same
  by_cases sign : c = '\u212a'
  · subst sign
    exact .inr ⟨rfl, same⟩
  · rw [small_of_ne sign] at same
    exact .inl ⟨by rw [← Text.isLetter_toLower, ← same, Text.isLetter_toLower, plain], same⟩

theorem not_isLetter_small_of_digit {c : Char} (digit : c.isDigit = true) :
    isLetter (small c) = false := by
  have plain : c ≠ '\u212a' := by
    rintro rfl
    exact absurd digit (by decide)
  rw [small_of_ne plain, Text.toLower_of_digit digit, Text.not_isLetter_of_digit digit]

/-- A word takes a byte for each of its letters. -/
theorem utf8ByteSize_of_letters {word : String} (plain : ∀ c ∈ word.toList, isLetter c = true) :
    word.utf8ByteSize = word.toList.length := by
  rw [← Text.length_bytes, Text.bytes_eq_encode]
  generalize word.toList = chars at plain
  induction chars with
  | nil => rfl
  | cons c chars induction =>
      obtain ⟨first, others⟩ := List.forall_mem_cons.mp plain
      rw [Text.encode_cons, List.length_append, String.length_utf8EncodeChar,
        utf8Size_of_letter first, induction others, List.length_cons, Nat.add_comm]

theorem letters_plain {expected : String} (plain : isPlain expected = true) :
    ∀ c ∈ expected.toList, isLetter c = true :=
  List.all_eq_true.mp (Bool.and_eq_true_iff.mp plain).2

theorem isLetter_small {c : Char} (letter : isLetter c = true) : isLetter (small c) = true := by
  rw [small_of_letter letter, Text.isLetter_toLower, letter]

/-! ## Letters that agree -/

theorem agrees_cons {letter c : Char} {expected chars : List Char} :
    agrees (letter :: expected) (c :: chars) = true ↔
      small letter = small c ∧ agrees expected chars = true := by
  simp [agrees]

theorem isLetter_of_caseless {front expected : List Char} (plain : ∀ c ∈ expected, isLetter c = true)
    (same : caseless front = caseless expected) : ∀ c ∈ front, isLetter c = true := by
  intro c member
  have lower : c.toLower ∈ caseless expected := same ▸ List.mem_map_of_mem member
  obtain ⟨letter, expects, agrees⟩ := List.mem_map.mp lower
  rw [← Text.isLetter_toLower, ← agrees, Text.isLetter_toLower]
  exact plain letter expects

theorem agrees_append {expected front : List Char} (plain : ∀ c ∈ expected, isLetter c = true)
    (same : caseless front = caseless expected) (rest : List Char) :
    agrees expected (front ++ rest) = true := by
  have letters := isLetter_of_caseless plain same
  induction expected generalizing front with
  | nil =>
      obtain rfl := List.map_eq_nil_iff.mp same
      rfl
  | cons letter expected induction =>
      obtain ⟨c, front, rfl, lower, others⟩ := List.map_eq_cons_iff.mp same
      obtain ⟨expects, plain⟩ := List.forall_mem_cons.mp plain
      obtain ⟨first, letters⟩ := List.forall_mem_cons.mp letters
      refine agrees_cons.mpr ⟨?_, induction plain others letters⟩
      rw [small_of_letter expects, small_of_letter first, lower]

/-- Letters that agree as far as there are both: all those of the word stand in front, or the word goes
on behind them. -/
theorem cases_of_agrees {expected front rest : List Char}
    (plain : ∀ c ∈ expected, isLetter c = true) (letters : ∀ c ∈ front, isLetter c = true)
    (agree : agrees expected (front ++ rest) = true) :
    (∃ here more, front = here ++ more ∧ caseless here = caseless expected) ∨
      ∃ here letter more, expected = here ++ letter :: more ∧ caseless here = caseless front ∧
        agrees (letter :: more) rest = true := by
  induction expected generalizing front with
  | nil => exact .inl ⟨[], front, rfl, rfl⟩
  | cons letter expected induction =>
      cases front with
      | nil => exact .inr ⟨[], letter, expected, rfl, rfl, agree⟩
      | cons c front =>
          obtain ⟨expects, plain⟩ := List.forall_mem_cons.mp plain
          obtain ⟨first, letters⟩ := List.forall_mem_cons.mp letters
          obtain ⟨same, agree⟩ := agrees_cons.mp agree
          rw [small_of_letter expects, small_of_letter first] at same
          rcases induction plain letters agree with
            ⟨here, more, rfl, others⟩ | ⟨here, next, more, rfl, others, onward⟩
          · refine .inl ⟨c :: here, more, rfl, ?_⟩
            simpa [caseless, same] using others
          · refine .inr ⟨letter :: here, next, more, rfl, ?_, onward⟩
            simpa [caseless, same] using others

/-! ## Cutting off bytes -/

theorem bytes_zero (chars : List Char) : bytes 0 chars = .done ([], chars) := by
  cases chars <;> rfl

theorem bytes_append {front : List Char} (letters : ∀ c ∈ front, isLetter c = true)
    (rest : List Char) : bytes front.length (front ++ rest) = .done (front, rest) := by
  induction front with
  | nil => exact bytes_zero rest
  | cons c front induction =>
      obtain ⟨first, letters⟩ := List.forall_mem_cons.mp letters
      have here : 1 ≤ front.length + 1 := Nat.le_add_left 1 _
      simp [bytes, utf8Size_of_letter first, induction letters]

theorem bytes_of_short {count : Nat} {chars : List Char} (letters : ∀ c ∈ chars, isLetter c = true)
    (short : chars.length < count) : bytes count chars = .miss := by
  induction chars generalizing count with
  | nil =>
      obtain ⟨count, rfl⟩ := Nat.exists_eq_add_of_lt short
      rfl
  | cons c chars induction =>
      obtain ⟨first, letters⟩ := List.forall_mem_cons.mp letters
      rw [List.length_cons] at short
      obtain ⟨count, rfl⟩ : ∃ fewer, count = fewer + 1 := ⟨count - 1, by omega⟩
      have misses : bytes count chars = .miss := induction letters (by omega)
      simp [bytes, utf8Size_of_letter first, misses]

/-- What is cut off a text is its front. -/
theorem eq_append_of_bytes {count : Nat} {chars front rest : List Char}
    (read : bytes count chars = .done (front, rest)) : chars = front ++ rest := by
  fun_induction bytes count chars generalizing front rest with
  | case1 chars =>
      obtain ⟨rfl, rfl⟩ := Prod.mk.inj (Attempt.done.inj read)
      rfl
  | case2 => contradiction
  | case3 count c chars fits induction =>
      obtain ⟨⟨others, left⟩, cut, done⟩ := Attempt.bind_eq_done.mp read
      obtain ⟨rfl, rfl⟩ := Prod.mk.inj (Attempt.done.inj done)
      rw [induction cut, List.cons_append]
  | case4 => contradiction

/-- Every character that is cut off was compared with a letter. -/
theorem isLetter_small_of_bytes {expected chars front rest : List Char} {count : Nat}
    (plain : ∀ c ∈ expected, isLetter c = true) (agree : agrees expected chars = true)
    (short : count ≤ expected.length) (read : bytes count chars = .done (front, rest)) :
    ∀ c ∈ front, isLetter (small c) = true := by
  induction expected generalizing chars front count with
  | nil =>
      obtain rfl := Nat.le_zero.mp short
      rw [bytes_zero] at read
      obtain ⟨rfl, -⟩ := Prod.mk.inj (Attempt.done.inj read)
      exact fun _ contra => nomatch contra
  | cons letter expected induction =>
      obtain ⟨expects, plain⟩ := List.forall_mem_cons.mp plain
      cases count with
      | zero =>
          rw [bytes_zero] at read
          obtain ⟨rfl, -⟩ := Prod.mk.inj (Attempt.done.inj read)
          exact fun _ contra => nomatch contra
      | succ count =>
          cases chars with
          | nil => contradiction
          | cons c chars =>
              obtain ⟨same, agree⟩ := agrees_cons.mp agree
              rw [bytes] at read
              split at read
              case isFalse => contradiction
              obtain ⟨⟨others, left⟩, cut, done⟩ := Attempt.bind_eq_done.mp read
              obtain ⟨rfl, rfl⟩ := Prod.mk.inj (Attempt.done.inj done)
              have fewer : count + 1 - c.utf8Size ≤ expected.length := by
                have := c.utf8Size_pos
                rw [List.length_cons] at short
                omega
              exact List.forall_mem_cons.mpr
                ⟨same ▸ isLetter_small expects, induction plain agree fewer cut⟩

/-! ## Words in any case -/

/-- A word is read where its letters stand in any case. -/
theorem letters_append {expected : String} (plain : ∀ c ∈ expected.toList, isLetter c = true)
    {front : List Char} (same : caseless front = caseless expected.toList) (rest : List Char) :
    letters expected (front ++ rest) = .done (String.ofList front, rest) := by
  have length : expected.utf8ByteSize = front.length := by
    rw [utf8ByteSize_of_letters plain]
    simpa [caseless] using (congrArg List.length same).symm
  simp [letters, agrees_append plain same, length,
    bytes_append (isLetter_of_caseless plain same)]

/-- What is read in the place of a word agrees with it. -/
theorem agrees_of_letters {expected lexeme : String} {chars rest : List Char}
    (read : letters expected chars = .done (lexeme, rest)) :
    ∃ front, agrees expected.toList chars = true ∧
      bytes expected.utf8ByteSize chars = .done (front, rest) ∧ lexeme = String.ofList front := by
  unfold letters at read
  split at read
  · rename_i agree
    obtain ⟨⟨front, left⟩, cut, done⟩ := Attempt.bind_eq_done.mp read
    obtain ⟨rfl, rfl⟩ := Prod.mk.inj (Attempt.done.inj done)
    exact ⟨front, agree, cut, rfl⟩
  · contradiction

/-- Whether no letter of a word is a K, but for the last two. -/
def isSettled : List Char → Bool
  | letter :: second :: third :: expected =>
    small letter != 'k' && isSettled (second :: third :: expected)
  | _ => true

theorem letters_of_bytes {expected chars front rest : List Char}
    (plain : ∀ c ∈ expected, isLetter c = true) (settled : isSettled expected = true)
    (agree : agrees expected chars = true)
    (read : bytes expected.length chars = .done (front, rest)) :
    caseless front = caseless expected := by
  induction expected generalizing chars front with
  | nil =>
      rw [List.length_nil, bytes_zero] at read
      obtain ⟨rfl, -⟩ := Prod.mk.inj (Attempt.done.inj read)
      rfl
  | cons letter expected induction =>
      cases chars with
      | nil => contradiction
      | cons c chars =>
          obtain ⟨expects, plain⟩ := List.forall_mem_cons.mp plain
          obtain ⟨same, agree⟩ := agrees_cons.mp agree
          rw [List.length_cons, bytes] at read
          split at read
          case isFalse => contradiction
          rename_i fits
          obtain ⟨⟨others, left⟩, cut, done⟩ := Attempt.bind_eq_done.mp read
          obtain ⟨rfl, rfl⟩ := Prod.mk.inj (Attempt.done.inj done)
          rcases letter_of_small_eq expects same with ⟨is_letter, lower⟩ | ⟨rfl, -⟩
          · rw [utf8Size_of_letter is_letter, Nat.add_sub_cancel] at cut
            have settled : isSettled expected = true := by
              match expected, settled with
              | [], _ | [_], _ => rfl
              | _ :: _ :: _, settled => exact (Bool.and_eq_true_iff.mp settled).2
            simpa [caseless, lower] using induction plain settled agree cut
          · -- A sign that counts as a K takes the place of three letters.
            match expected, settled, fits with
            | second :: third :: expected, settled, _ =>
                have other := (Bool.and_eq_true_iff.mp settled).1
                exact absurd same (bne_iff_ne.mp other)

theorem letters_eq_done {expected lexeme : String} {chars rest : List Char}
    (plain : isPlain expected = true) (settled : isSettled expected.toList = true) :
    letters expected chars = .done (lexeme, rest) ↔
      ∃ front, chars = front ++ rest ∧ caseless front = caseless expected.toList ∧
        String.ofList front = lexeme := by
  have plain := letters_plain plain
  constructor
  · intro read
    obtain ⟨front, agree, cut, rfl⟩ := agrees_of_letters read
    have split := eq_append_of_bytes cut
    rw [utf8ByteSize_of_letters plain] at cut
    exact ⟨front, split, letters_of_bytes plain settled agree cut, rfl⟩
  · rintro ⟨front, rfl, same, rfl⟩
    exact letters_append plain same rest

/-- A word that would go on behind the text is not read. -/
theorem letters_of_short {expected : String} (plain : isPlain expected = true) {chars : List Char}
    (letters : ∀ c ∈ chars, isLetter c = true) (short : chars.length < expected.toList.length) :
    Grammar.letters expected chars = .miss := by
  have misses : bytes expected.utf8ByteSize chars = .miss := by
    rw [utf8ByteSize_of_letters (letters_plain plain)]
    exact bytes_of_short letters short
  unfold Grammar.letters
  split
  · rw [misses, Attempt.miss_bind]
  · rfl

/-- A word is told by its first letter. -/
theorem letters_of_head {expected : String} (plain : isPlain expected = true) {chars : List Char}
    (differ : ∀ letter ∈ expected.toList.head?, ∀ c ∈ chars.head?, small letter ≠ small c) :
    letters expected chars = .miss := by
  obtain ⟨nonempty, -⟩ := Bool.and_eq_true_iff.mp plain
  have length := utf8ByteSize_of_letters (letters_plain plain)
  obtain ⟨letter, others, split⟩ :=
    List.exists_cons_of_ne_nil (l := expected.toList) (by simpa using nonempty)
  rw [letters, length, split]
  rw [split] at differ
  cases chars with
  | nil => rfl
  | cons c chars =>
      have disagree : agrees (letter :: others) (c :: chars) = false :=
        Bool.eq_false_iff.mpr fun agree => differ letter rfl c rfl (agrees_cons.mp agree).1
      rw [disagree]
      rfl

end Wording
end SqlEngine
