import SqlEngine.Pattern
import SqlEngine.Proofs.Lookups

/-!
# Matching with cursors

A pattern is matched with two cursors, one in the pattern and one in the text, and a mark where the
last wildcard was passed.  A mismatch behind the mark moves it on by one place of the text and starts
again from there.  Neither cursor leaves its list, and the match comes out as it does when the rest
of the pattern is tried at one place of the text after the other.
-/

namespace SqlEngine
namespace Pattern

open Guarded

/-- Where a match has got to. -/
structure Cursors where
  /-- The place of the next character in the pattern. -/
  inPattern : Nat
  /-- The place of the next character in the text. -/
  inText : Nat
  /-- The place of the last wildcard in the pattern, and the one in the text where what stands behind
  it was last tried. -/
  mark : Option (Nat × Nat)
  /-- The cursors are behind the wildcard and not in front of the trial. -/
  behind : ∀ places ∈ mark, places.1 < inPattern ∧ places.2 ≤ inText

namespace Cursors

/-- At the start of a match. -/
def start : Cursors :=
  ⟨0, 0, none, by simp⟩

/-- Behind a character that the pattern takes. -/
def advance (cursors : Cursors) : Cursors where
  inPattern := cursors.inPattern + 1
  inText := cursors.inText + 1
  mark := cursors.mark
  behind places marked := by
    have := cursors.behind places marked
    omega

/-- Behind a wildcard, which is marked. -/
def pass (cursors : Cursors) : Cursors where
  inPattern := cursors.inPattern + 1
  inText := cursors.inText
  mark := some (cursors.inPattern, cursors.inText)
  behind := by simp

/-- Behind the marked wildcard again, one place further in the text. -/
def retry (wildcard trial : Nat) : Cursors where
  inPattern := wildcard + 1
  inText := trial + 1
  mark := some (wildcard, trial + 1)
  behind := by simp

end Cursors

/-- Follows a pattern along a text from the cursors on. -/
def trace (pattern text : List Char) (cursors : Cursors) : Guarded Bool :=
  if cursors.inText < text.length then
    if cursors.inPattern < pattern.length then do
      let p ← lookup pattern cursors.inPattern
      if p = '_' ∨ p = (← lookup text cursors.inText) then trace pattern text cursors.advance
      else if p = '%' then trace pattern text cursors.pass
      else
        match _marked : cursors.mark with
        | some (wildcard, trial) => trace pattern text (Cursors.retry wildcard trial)
        | none => return false
    else
      match _marked : cursors.mark with
      | some (wildcard, trial) => trace pattern text (Cursors.retry wildcard trial)
      | none => return false
  else return (← slice pattern cursors.inPattern).all (· == '%')
termination_by
  (pattern.length + 1 - cursors.mark.elim 0 (·.1 + 1), text.length - cursors.mark.elim 0 (·.2),
    text.length - cursors.inText)
decreasing_by
  · refine Prod.Lex.right _ (Prod.Lex.right _ ?_)
    change text.length - (cursors.inText + 1) < _
    omega
  · refine Prod.Lex.left _ _ ?_
    change pattern.length + 1 - (cursors.inPattern + 1) < _
    cases marked : cursors.mark with
    | none =>
        rw [Option.elim_none]
        omega
    | some places =>
        have := cursors.behind places marked
        rw [Option.elim_some]
        omega
  all_goals
    have := cursors.behind (wildcard, trial) _marked
    rw [_marked]
    refine Prod.Lex.right _ (Prod.Lex.left _ _ ?_)
    change text.length - (trial + 1) < text.length - trial
    omega

/-- What a match comes to when the pattern and the text part: what stands behind the marked wildcard
is tried further on. -/
def resume (pattern text : List Char) : Option (Nat × Nat) → Bool
  | none => false
  | some (wildcard, trial) => search (pattern.drop (wildcard + 1)) (text.drop (trial + 1))

/-- What a match comes to from the cursors on. -/
def result (pattern text : List Char) (cursors : Cursors) : Bool :=
  match follow (pattern.drop cursors.inPattern) (text.drop cursors.inText) with
  | .ended matched => matched
  | .wildcard rest left => search rest left
  | .mismatch => resume pattern text cursors.mark

theorem search_drop (pattern text : List Char) (place : Nat) :
    search pattern (text.drop place) =
      match follow pattern (text.drop place) with
      | .ended matched => matched
      | .wildcard rest left => search rest left
      | .mismatch => search pattern (text.drop (place + 1)) := by
  rw [← List.tail_drop]
  generalize text.drop place = text
  fun_cases search pattern text with
  | case1 _ _ stopped => simp [stopped]
  | case2 _ _ _ stopped => simp [stopped]
  | case3 stopped => cases pattern <;> cases stopped
  | case4 c others stopped => simp [stopped]

variable {pattern text : List Char} {cursors : Cursors}

/-- To try again behind the marked wildcard is to go on from there. -/
theorem result_retry (wildcard trial : Nat) :
    result pattern text (Cursors.retry wildcard trial) =
      resume pattern text (some (wildcard, trial)) :=
  (search_drop (pattern.drop (wildcard + 1)) text (trial + 1)).symm

/-- Where the pattern and the text part, the match is what it is from the mark on. -/
theorem result_of_mismatch
    (parts : follow (pattern.drop cursors.inPattern) (text.drop cursors.inText) = .mismatch) :
    result pattern text cursors = resume pattern text cursors.mark := by
  rw [result, parts]

theorem result_pass
    (stops : follow (pattern.drop cursors.inPattern) (text.drop cursors.inText) =
      .wildcard (pattern.drop (cursors.inPattern + 1)) (text.drop cursors.inText)) :
    result pattern text cursors.pass = result pattern text cursors := by
  rw [result.eq_def _ _ cursors, stops]
  exact (search_drop _ text cursors.inText).symm

theorem result_advance
    (goes : follow (pattern.drop cursors.inPattern) (text.drop cursors.inText) =
      follow (pattern.drop (cursors.inPattern + 1)) (text.drop (cursors.inText + 1))) :
    result pattern text cursors.advance = result pattern text cursors := by
  rw [result.eq_def _ _ cursors, goes]
  rfl

/-- No cursor leaves its list, if the one in the pattern does not start behind its end. -/
theorem trace_eq_ok (short : cursors.inPattern ≤ pattern.length) :
    trace pattern text cursors = .ok (result pattern text cursors) := by
  fun_induction trace pattern text cursors with
  | case1 cursors inside more induction₁ induction₂ induction₃ =>
      have split : pattern.drop cursors.inPattern =
          pattern[cursors.inPattern] :: pattern.drop (cursors.inPattern + 1) :=
        List.drop_eq_getElem_cons more
      have split' : text.drop cursors.inText =
          text[cursors.inText] :: text.drop (cursors.inText + 1) :=
        List.drop_eq_getElem_cons inside
      have stops := congrArg₂ follow split split'
      rw [follow] at stops
      rw [lookup_eq_ok (List.getElem?_eq_getElem more),
        lookup_eq_ok (List.getElem?_eq_getElem inside)]
      change (if _ then _ else _) = _
      split
      · rename_i takes
        rw [if_pos takes] at stops
        rw [induction₁ more, result_advance stops]
      · rename_i other
        rw [if_neg other] at stops
        split
        · rename_i wildcard
          rw [if_pos wildcard, ← split'] at stops
          rw [induction₂ more, result_pass stops]
        · rename_i plain
          rw [if_neg plain] at stops
          rw [result_of_mismatch stops]
          split
          · rename_i wildcard trial marked
            have before := (cursors.behind _ marked).1
            rw [induction₃ wildcard trial marked (by change wildcard + 1 ≤ _; omega), result_retry,
              marked]
          · rename_i marked
            rw [marked]
            rfl
  | case2 cursors inside more wildcard trial marked induction =>
      have ended : pattern.drop cursors.inPattern = [] := List.drop_eq_nil_of_le (by omega)
      have before := (cursors.behind _ marked).1
      have parts := congrArg₂ follow ended (List.drop_eq_getElem_cons inside)
      rw [follow] at parts
      rw [induction (by change wildcard + 1 ≤ _; omega), result_retry, result_of_mismatch parts,
        marked]
  | case3 cursors inside more marked =>
      have ended : pattern.drop cursors.inPattern = [] := List.drop_eq_nil_of_le (by omega)
      have parts := congrArg₂ follow ended (List.drop_eq_getElem_cons inside)
      rw [follow] at parts
      rw [result_of_mismatch parts, marked]
      rfl
  | case4 cursors inside =>
      have ended : text.drop cursors.inText = [] := List.drop_eq_nil_of_le (by omega)
      rw [slice_eq_ok short, result, ended, follow]
      rfl

/-- To match with cursors comes to the same as to try the rest of the pattern at one place after the
other. -/
theorem trace_start (pattern text : List Char) :
    trace pattern text Cursors.start = .ok (accepts pattern text) := by
  rw [trace_eq_ok (Nat.zero_le _)]
  rfl

end Pattern
end SqlEngine
