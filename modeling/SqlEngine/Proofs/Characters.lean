import SqlEngine.Grammar.Words
import SqlEngine.Text.Blank
import Mathlib.Data.List.DropRight

/-!
# Characters

Letters, digits and blanks by their numbers.  The characters of words and numbers are no blanks, so
that a text that ends in one of them has nothing to trim.
-/

namespace SqlEngine

/-- The characters of the words of the language. -/
def Grammar.isLetter (c : Char) : Bool :=
  c.isAlpha || c == '_'

namespace Text

theorem isUpper_iff {c : Char} : c.isUpper = true ↔ 65 ≤ c.toNat ∧ c.toNat ≤ 90 :=
  decide_eq_true_iff

theorem isLower_iff {c : Char} : c.isLower = true ↔ 97 ≤ c.toNat ∧ c.toNat ≤ 122 :=
  Bool.and_eq_true_iff.trans (and_congr decide_eq_true_iff decide_eq_true_iff)

theorem isAlpha_iff {c : Char} :
    c.isAlpha = true ↔ 65 ≤ c.toNat ∧ c.toNat ≤ 90 ∨ 97 ≤ c.toNat ∧ c.toNat ≤ 122 :=
  Bool.or_eq_true_iff.trans (or_congr isUpper_iff isLower_iff)

theorem isDigit_iff {c : Char} : c.isDigit = true ↔ 48 ≤ c.toNat ∧ c.toNat ≤ 57 :=
  Bool.and_eq_true_iff.trans (and_congr decide_eq_true_iff decide_eq_true_iff)

theorem toLower_of_upper {c : Char} (upper : c.isUpper = true) :
    c.toLower.toNat = c.toNat + 32 := by
  have bounds := isUpper_iff.mp upper
  have moved : c.toLower.val = c.val + 32 := congrArg Char.val (dif_pos (of_decide_eq_true upper))
  change c.toLower.val.toNat = c.toNat + 32
  rw [moved, UInt32.toNat_add]
  exact Nat.mod_eq_of_lt (by change c.toNat + 32 < _; omega)

theorem toLower_of_not_upper {c : Char} (other : ¬ c.isUpper = true) : c.toLower = c :=
  dif_neg fun bounds => other (decide_eq_true bounds)

theorem toLower_of_digit {c : Char} (digit : c.isDigit = true) : c.toLower = c := by
  have bounds := isDigit_iff.mp digit
  refine toLower_of_not_upper fun upper => ?_
  have := isUpper_iff.mp upper
  omega

theorem isLetter_toLower (c : Char) : Grammar.isLetter c.toLower = Grammar.isLetter c := by
  by_cases upper : c.isUpper = true
  · have bounds := isUpper_iff.mp upper
    have moved := toLower_of_upper upper
    have alpha : c.isAlpha = true := isAlpha_iff.mpr (by omega)
    have alpha' : c.toLower.isAlpha = true := isAlpha_iff.mpr (by omega)
    rw [Grammar.isLetter, Grammar.isLetter, alpha, alpha', Bool.true_or, Bool.true_or]
  · rw [toLower_of_not_upper upper]

/-- Letters, digits and underscores are characters of names, and no blanks. -/
theorem isNameChar_of_plain {c : Char} (plain : (c.isAlphanum || c == '_') = true) :
    Grammar.isNameChar c = true ∧ isBlank c = false := by
  have bounds : 48 ≤ c.toNat ∧ c.toNat ≤ 122 := by
    rcases Bool.or_eq_true _ _ ▸ plain with alphanum | under
    · rcases Bool.or_eq_true _ _ ▸ alphanum with alpha | digit
      · have := isAlpha_iff.mp alpha
        omega
      · have := isDigit_iff.mp digit
        omega
    · rw [beq_iff_eq.mp under]
      decide
  constructor
  · rw [Grammar.isNameChar, isAlphanumeric, if_pos (by omega)]
    exact plain
  · simp only [isBlank, inRanges, blankRanges, List.any_cons, List.any_nil,
      Bool.or_false, Bool.or_eq_false_iff, Bool.and_eq_false_iff, decide_eq_false_iff_not]
    omega

theorem plain_of_letter {c : Char} (letter : Grammar.isLetter c = true) :
    (c.isAlphanum || c == '_') = true := by
  rcases Bool.or_eq_true _ _ ▸ letter with alpha | under
  · rw [Char.isAlphanum, alpha, Bool.true_or, Bool.true_or]
  · rw [under, Bool.or_true]

theorem plain_of_digit {c : Char} (digit : c.isDigit = true) :
    (c.isAlphanum || c == '_') = true := by
  rw [Char.isAlphanum, digit, Bool.or_true, Bool.true_or]

theorem not_isLetter_of_digit {c : Char} (digit : c.isDigit = true) :
    Grammar.isLetter c = false := by
  have bounds := isDigit_iff.mp digit
  refine Bool.eq_false_iff.mpr fun letter => ?_
  rcases Bool.or_eq_true _ _ ▸ letter with alpha | under
  · have := isAlpha_iff.mp alpha
    omega
  · rw [beq_iff_eq.mp under] at digit
    contradiction

theorem isBlank_of_isSpace {c : Char} (space : Grammar.isSpace c = true) : isBlank c = true := by
  simp only [Grammar.isSpace, Bool.or_eq_true, beq_iff_eq] at space
  rcases space with ((rfl | rfl) | rfl) | rfl <;> decide

theorem isSpace_of_not_blank {c : Char} (visible : isBlank c = false) :
    Grammar.isSpace c = false := by
  refine Bool.eq_false_iff.mpr fun space => ?_
  rw [isBlank_of_isSpace space] at visible
  contradiction

/-! ## Trimming -/

theorem trim_eq (chars : List Char) : trim chars = (trimStart chars).rdropWhile isBlank :=
  rfl

theorem rdropWhile_append (front rest : List Char) :
    (front ++ rest).rdropWhile isBlank =
      if rest.rdropWhile isBlank = [] then front.rdropWhile isBlank
      else front ++ rest.rdropWhile isBlank := by
  simp only [List.rdropWhile, List.reverse_append, List.dropWhile_append, List.isEmpty_iff,
    List.reverse_eq_nil_iff]
  split <;> simp

end Text
end SqlEngine
