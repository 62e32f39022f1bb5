import SqlEngine.Grammar.Literal
import SqlEngine.Proofs.Characters
import SqlEngine.Proofs.Scanning
import SqlEngine.Proofs.Strings
import SqlEngine.Proofs.Wordings

/-!
# Marks on paper

Marks are written one behind the other, words in any case, names between quotes of either kind and
strings with their quotes doubled.  Any blanks may stand between two marks, and some must where the
first would run into the second: a word into a word or a number.  A scanner of a word takes exactly
the marks that are this word.
-/

namespace SqlEngine
namespace Wording

open Grammar

/-! ## Writing -/

/-- Letters without their case. -/
def caseless (chars : List Char) : List Char :=
  chars.map Char.toLower

/-- Whether characters are a way to write a mark. -/
inductive Mark.Spelled : Mark → List Char → Prop where
  /-- A word stands in any case. -/
  | word {expected : String} {chars : List Char} (some : chars ≠ [])
      (letters : ∀ c ∈ chars, isLetter c = true)
      (same : caseless chars = caseless expected.toList) : Spelled (.word expected) chars
  /-- A sign stands as it is. -/
  | sign (written : Sign) : Spelled (.sign written) written.chars
  /-- A name without quotes stands between quotes. -/
  | quoted {written : Name} (plain : '\x22' ∉ written.content) :
      Spelled (.name written) ('\x22' :: (written.content ++ ['\x22']))
  /-- A name without back quotes stands between back quotes. -/
  | backQuoted {written : Name} (plain : '\x60' ∉ written.content) :
      Spelled (.name written) ('\x60' :: (written.content ++ ['\x60']))
  /-- A name that needs no quotes stands as it is. -/
  | bareName (written : BareName) : Spelled (.bareName written) written.chars
  /-- A string stands between single quotes, and every single quote in it stands twice. -/
  | string (content : List Char) :
      Spelled (.string content) ('\x27' :: (Text.doubleQuotes content ++ ['\x27']))
  /-- A number stands as it is. -/
  | number (written : Number) : Spelled (.number written) written.chars

/-- Whether a mark would run into a character that stood right behind it.  In a statement this can
only happen to a word or a number in front of another: a word goes on as long as there are letters,
digits and underscores. -/
def Mark.runsInto (mark : Mark) (c : Char) : Bool :=
  match mark with
  | .word _ | .bareName _ => isNameChar c
  | .number _ => c.isDigit || c == '.'
  | .string _ => c == '\x27'
  | .sign (.comparison .less) => c == '=' || c == '>'
  | .sign (.comparison .greater) => c == '='
  | .sign _ | .name _ => false

/-- Whether characters are marks with blanks between them, in front and behind. -/
inductive Written : List Mark → List Char → Prop where
  /-- No mark is left. -/
  | blank {gap : List Char} (spaces : ∀ c ∈ gap, isSpace c = true) : Written [] gap
  /-- A mark, which does not run into the rest. -/
  | mark {mark : Mark} {others : List Mark} {gap chars rest : List Char}
      (spaces : ∀ c ∈ gap, isSpace c = true) (spelled : mark.Spelled chars)
      (apart : ∀ c ∈ rest.head?, mark.runsInto c = false) (behind : Written others rest) :
      Written (mark :: others) (gap ++ (chars ++ rest))

/-- What stands on paper can be checked character by character. -/
theorem Written.ofTests {mark : Mark} {others : List Mark} (gap chars : List Char)
    {rest : List Char} (spaces : gap.all isSpace = true) (spelled : mark.Spelled chars)
    (apart : rest.head?.any mark.runsInto = false) (behind : Written others rest) :
    Written (mark :: others) (gap ++ (chars ++ rest)) := by
  refine .mark (List.all_eq_true.mp spaces) spelled (fun c first => ?_) behind
  rwa [Option.mem_def.mp first] at apart

/-! ## Ends of marks -/

/-- Characters that are no blank at either end. -/
structure Solid (chars : List Char) : Prop where
  /-- The first character is no blank. -/
  starts : ∃ c rest, chars = c :: rest ∧ Text.isBlank c = false
  /-- The last character is no blank. -/
  ends : ∃ front c, chars = front ++ [c] ∧ Text.isBlank c = false

theorem Solid.of_visible {chars : List Char} (some : chars ≠ [])
    (visible : ∀ c ∈ chars, Text.isBlank c = false) : Solid chars where
  starts := by
    obtain ⟨c, rest, rfl⟩ := List.exists_cons_of_ne_nil some
    exact ⟨c, rest, rfl, visible c List.mem_cons_self⟩
  ends := by
    refine ⟨chars.dropLast, chars.getLast some, (List.dropLast_append_getLast some).symm, ?_⟩
    exact visible _ (List.getLast_mem some)

theorem Solid.of_quotes {quote : Char} (visible : Text.isBlank quote = false)
    (content : List Char) :
    Solid (quote :: (content ++ [quote])) where
  starts := ⟨quote, content ++ [quote], rfl, visible⟩
  ends := ⟨quote :: content, quote, rfl, visible⟩

theorem Number.visible {number : Number} {c : Char} (member : c ∈ number.chars) :
    Text.isBlank c = false := by
  have digits {digits : Digits} (member : c ∈ digits.chars) : Text.isBlank c = false :=
    (Text.isNameChar_of_plain (Text.plain_of_digit (digits.digits c member))).2
  rcases List.mem_append.mp member with front | places
  · rcases List.mem_append.mp front with minus | whole
    · split at minus
      · rw [List.mem_singleton.mp minus]
        decide
      · exact absurd minus List.not_mem_nil
    · exact digits whole
  · cases fraction : number.fraction with
    | none => exact absurd (fraction ▸ places) List.not_mem_nil
    | some fraction' =>
        rw [fraction, Option.elim_some] at places
        rcases List.mem_cons.mp places with rfl | place
        · decide
        · exact digits place

theorem Number.chars_ne_nil (number : Number) : number.chars ≠ [] := by
  have := number.whole.nonempty
  simp [Number.chars, this]

theorem Mark.Spelled.solid {mark : Mark} {chars : List Char} (spelled : mark.Spelled chars) :
    Solid chars := by
  cases spelled with
  | word some letters _ =>
      exact .of_visible some fun c member =>
        (Text.isNameChar_of_plain (Text.plain_of_letter (letters c member))).2
  | sign written =>
      cases written with
      | comparison kind =>
          cases kind <;>
            exact .of_visible (List.cons_ne_nil _ _) (List.forall_iff_forall_mem.mp (by decide))
      | _ => exact .of_visible (List.cons_ne_nil _ _) (List.forall_iff_forall_mem.mp (by decide))
  | @quoted written => exact .of_quotes (by decide) written.content
  | @backQuoted written => exact .of_quotes (by decide) written.content
  | bareName written =>
      refine .of_visible (List.cons_ne_nil _ _) (List.forall_mem_cons.mpr ⟨?_, fun c member => ?_⟩)
      · exact (Text.isNameChar_of_plain (Text.plain_of_letter written.starts)).2
      · exact (Text.isNameChar_of_plain (written.continues c member)).2
  | string content => exact .of_quotes (by decide) (Text.doubleQuotes content)
  | number written => exact .of_visible written.chars_ne_nil fun _ => Number.visible

/-! ## Blanks -/

namespace Written

variable {mark : Mark} {others marks : List Mark} {text : List Char}

/-- Without the spaces in front, the first mark stands in front. -/
theorem uncons (written : Written (mark :: others) text) :
    ∃ chars rest, text.dropWhile isSpace = chars ++ rest ∧ mark.Spelled chars ∧
      (∀ c ∈ rest.head?, mark.runsInto c = false) ∧ Written others rest ∧
      rest.length < text.length := by
  cases written with
  | @mark _ _ gap chars rest spaces spelled apart behind =>
      obtain ⟨c, front, rfl, visible⟩ := spelled.solid.starts
      refine ⟨c :: front, rest, ?_, spelled, apart, behind, ?_⟩
      · rw [List.dropWhile_append_of_pos spaces, List.cons_append]
        exact List.dropWhile_cons_of_neg
          (Bool.not_eq_true _ ▸ Text.isSpace_of_not_blank visible)
      · simp only [List.length_append, List.length_cons]
        omega

theorem dropSpaces (written : Written marks text) : Written marks (text.dropWhile isSpace) := by
  cases marks with
  | nil =>
      cases written with
      | blank spaces =>
          rw [List.dropWhile_eq_nil_iff.mpr spaces]
          exact .blank (List.forall_mem_nil _)
  | cons mark others =>
      obtain ⟨chars, rest, split, spelled, apart, behind, -⟩ := written.uncons
      rw [split]
      exact .mark (List.forall_mem_nil _) spelled apart behind

theorem trimStart (written : Written marks text) : Written marks (Text.trimStart text) := by
  cases written with
  | @blank gap spaces =>
      rw [Text.trimStart, List.dropWhile_eq_nil_iff.mpr fun c member =>
        Text.isBlank_of_isSpace (spaces c member)]
      exact .blank (List.forall_mem_nil _)
  | @mark _ _ gap chars rest spaces spelled apart behind =>
      obtain ⟨c, front, rfl, visible⟩ := spelled.solid.starts
      rw [Text.trimStart, List.dropWhile_append_of_pos fun c member =>
        Text.isBlank_of_isSpace (spaces c member), List.cons_append,
        List.dropWhile_cons_of_neg (Bool.not_eq_true _ ▸ visible)]
      exact .mark (List.forall_mem_nil _) spelled apart behind

theorem trimEnd (written : Written marks text) : Written marks (text.rdropWhile Text.isBlank) := by
  induction written with
  | @blank gap spaces =>
      rw [List.rdropWhile_eq_nil_iff.mpr fun c member => Text.isBlank_of_isSpace (spaces c member)]
      exact .blank (List.forall_mem_nil _)
  | @mark mark others gap chars rest spaces spelled apart behind induction =>
      -- A mark ends in a visible character, which stops the trimming.
      obtain ⟨front, c, rfl, visible⟩ := spelled.solid.ends
      have kept : (front ++ [c] ++ rest).rdropWhile Text.isBlank =
          front ++ [c] ++ rest.rdropWhile Text.isBlank := by
        rw [Text.rdropWhile_append]
        split
        · rename_i empty
          rw [List.rdropWhile_concat_neg _ _ _ (Bool.not_eq_true _ ▸ visible), empty,
            List.append_nil]
        · rfl
      rw [Text.rdropWhile_append, kept, if_neg (by simp)]
      refine .mark spaces spelled (fun d first => apart d ?_) induction
      obtain ⟨others, split⟩ := List.rdropWhile_prefix Text.isBlank rest
      rw [← split, List.head?_append, Option.mem_def.mp first]
      exact rfl

/-- Marks stay where they are when a text is trimmed. -/
theorem trim (written : Written marks text) : Written marks (Text.trim text) :=
  written.trimStart.trimEnd

end Written
end Wording
end SqlEngine
