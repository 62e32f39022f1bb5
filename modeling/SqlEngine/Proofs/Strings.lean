import SqlEngine.Grammar.Literal
import SqlEngine.Text.Quoting

/-!
# Strings

A string ends at its first quote that is not written twice, so that a text between quotes, with the
quotes inside it written twice, is read as that text.
-/

namespace SqlEngine

theorem Text.doubleQuotes_of_plain {c : Char} (plain : c ≠ '\x27') : doubleQuotes [c] = [c] := by
  simp [doubleQuotes, plain]

namespace Grammar

theorem stringRest_of_plain {c : Char} (plain : c ≠ '\x27') (rest : List Char) :
    stringRest (c :: rest) =
      (stringRest rest).map fun found => (c :: found.1, found.2) := by
  rw [stringRest.eq_def]
  exact if_neg plain

/-- A quote that is written twice is read as one. -/
theorem stringRest_of_twice (rest : List Char) :
    stringRest ('\x27' :: '\x27' :: rest) =
      (stringRest rest).map fun found => ('\x27' :: found.1, found.2) := by
  rw [stringRest.eq_def]
  rfl

/-- A string ends at a quote that no second one follows. -/
theorem stringRest_of_end {rest : List Char} (single : rest.head? ≠ some '\x27') :
    stringRest ('\x27' :: rest) = some ([], rest) := by
  rw [stringRest.eq_def]
  cases rest with
  | nil => rfl
  | cons d rest =>
      have plain : d ≠ '\x27' := fun same => single (by rw [same, List.head?_cons])
      exact if_neg plain

theorem stringRest_doubleQuotes (content rest : List Char) :
    stringRest (Text.doubleQuotes content ++ rest) =
      (stringRest rest).map fun found => (content ++ found.1, found.2) := by
  induction content with
  | nil => simp [Text.doubleQuotes]
  | cons c content induction =>
      by_cases plain : c = '\x27'
      · subst plain
        simp only [Text.doubleQuotes, if_true, List.cons_append, stringRest_of_twice, induction,
          Option.map_map]
        rfl
      · simp only [Text.doubleQuotes, if_neg plain, List.cons_append, stringRest_of_plain plain,
          induction, Option.map_map]
        rfl

end Grammar
end SqlEngine
