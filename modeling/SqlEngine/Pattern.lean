/-!
# Patterns

A pattern is matched with a text from left to right.  An underscore takes any character; every other
character takes itself.  A percent sign that does not take itself is a wildcard for any run of
characters.  From the last wildcard passed on, the rest of the pattern is tried at one place of the
text after the other; what stands in front of it is never tried again.
-/

namespace SqlEngine
namespace Pattern

/-- How far a pattern goes along a text. -/
inductive Attempt where
  /-- The text ends, and the rest of the pattern matches nothing or does not. -/
  | ended (matched : Bool)
  /-- A wildcard, with the pattern behind it and the text from there on. -/
  | wildcard (pattern text : List Char)
  /-- A character of the text is not the one of the pattern. -/
  | mismatch
  deriving DecidableEq

/-- Follows a pattern along a text up to the next wildcard. -/
def follow : List Char → List Char → Attempt
  | pattern, [] => .ended (pattern.all (· == '%'))
  | [], _ :: _ => .mismatch
  | p :: pattern, c :: text =>
    if p = '_' ∨ p = c then follow pattern text
    else if p = '%' then .wildcard pattern (c :: text)
    else .mismatch

/-- The pattern behind a wildcard is shorter than the whole. -/
theorem length_lt_of_follow {pattern text rest left : List Char}
    (stopped : follow pattern text = .wildcard rest left) : rest.length < pattern.length := by
  induction pattern generalizing text with
  | nil => cases text <;> simp [follow] at stopped
  | cons p pattern induction =>
    cases text with
    | nil => simp [follow] at stopped
    | cons c text =>
      simp only [follow] at stopped
      split at stopped
      · exact Nat.lt_succ_of_lt (induction stopped)
      · split at stopped
        · simp only [Attempt.wildcard.injEq] at stopped
          simp [stopped.1]
        · simp at stopped

/-- Whether the pattern behind a wildcard matches some end of the text, as far as it is tried. -/
def search (pattern text : List Char) : Bool :=
  match stopped : follow pattern text with
  | .ended matched => matched
  | .wildcard rest left =>
    have := length_lt_of_follow stopped
    search rest left
  | .mismatch =>
    match text with
    | [] => false
    | _ :: others => search pattern others
termination_by (pattern.length, text.length)

/-- Whether a pattern matches a text. -/
def accepts (pattern text : List Char) : Bool :=
  match follow pattern text with
  | .ended matched => matched
  | .wildcard rest left => search rest left
  | .mismatch => false

end Pattern
end SqlEngine
