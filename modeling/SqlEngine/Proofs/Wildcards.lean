import Mathlib.Data.List.Forall2
import SqlEngine.Pattern

/-!
# What a pattern matches

A pattern matches a text that can be cut into pieces, one for each character of the pattern: a
percent sign takes any run, an underscore any character, and every other character itself.  A text
is accepted if it can be cut so that a percent sign with a percent sign in front of it takes this one
and no more.  So nothing is accepted that does not match, and a text that matches is accepted unless
percent signs of the pattern meet percent signs of the text.
-/

namespace SqlEngine
namespace Pattern

/-- Whether a character of a pattern may take a piece of a text. -/
def Takes (p : Char) (piece : List Char) : Prop :=
  if p = '%' then True
  else if p = '_' then ∃ c, piece = [c]
  else piece = [p]

/-- Whether a text is cut into consecutive pieces that the characters of a pattern take, each its
own. -/
structure Cut (pattern text : List Char) (pieces : List (List Char)) : Prop where
  /-- Each character of the pattern takes its piece. -/
  takes : List.Forall₂ Takes pattern pieces
  /-- The pieces make up the text. -/
  flatten_eq : pieces.flatten = text

/-- Whether a text can be cut into pieces that the characters of a pattern take. -/
def Matches (pattern text : List Char) : Prop :=
  ∃ pieces, Cut pattern text pieces

/-- Whether every percent sign with a percent sign of the text in front of it takes this one and no
more. -/
def SignsTakeSigns (pattern : List Char) (pieces : List (List Char)) : Prop :=
  ∀ place, pattern[place]? = some '%' → (pieces.drop place).flatten.head? = some '%' →
    pieces[place]? = some ['%']

/-- Whether a pattern takes a text piece by piece, its percent signs taking those of the text. -/
inductive Reads : List Char → List Char → Prop where
  /-- Nothing is left of either. -/
  | done : Reads [] []
  /-- A character takes one of the text. -/
  | one {p c : Char} {pattern text : List Char} (fits : p = '_' ∨ p = c)
      (rest : Reads pattern text) : Reads (p :: pattern) (c :: text)
  /-- A percent sign takes a run, as no percent sign stands in front of it. -/
  | run {pattern text : List Char} (piece : List Char) (free : (piece ++ text).head? ≠ some '%')
      (rest : Reads pattern text) : Reads ('%' :: pattern) (piece ++ text)

theorem takes_one {p c : Char} (fits : p = '_' ∨ p = c) : Takes p [c] := by
  unfold Takes
  split
  · trivial
  · split
    · exact ⟨c, rfl⟩
    · exact congrArg (fun c => [c]) (fits.resolve_left ‹_›).symm

theorem Takes.exists_one {p : Char} {piece : List Char} (takes : Takes p piece) (sign : p ≠ '%') :
    ∃ c, piece = [c] ∧ (p = '_' ∨ p = c) := by
  rw [Takes, if_neg sign] at takes
  split at takes
  · obtain ⟨c, rfl⟩ := takes
    exact ⟨c, rfl, .inl ‹_›⟩
  · exact ⟨p, takes, .inr rfl⟩

namespace Reads

variable {pattern text rest left : List Char}

theorem exists_cut (reads : Reads pattern text) :
    ∃ pieces, Cut pattern text pieces ∧ SignsTakeSigns pattern pieces := by
  induction reads with
  | done => exact ⟨[], ⟨.nil, rfl⟩, by simp [SignsTakeSigns]⟩
  | @one p c pattern text fits _ induction =>
      obtain ⟨pieces, ⟨takes, rfl⟩, signs⟩ := induction
      refine ⟨[c] :: pieces, ⟨.cons (takes_one fits) takes, rfl⟩, fun place sign front => ?_⟩
      cases place with
      | zero => simpa using front
      | succ place => exact signs place sign front
  | @run pattern text piece free _ induction =>
      obtain ⟨pieces, ⟨takes, rfl⟩, signs⟩ := induction
      refine ⟨piece :: pieces, ⟨.cons (by simp [Takes]) takes, rfl⟩, fun place sign front => ?_⟩
      cases place with
      | zero => exact absurd front free
      | succ place => exact signs place sign front

theorem of_cut {pieces : List (List Char)} (cut : Cut pattern text pieces)
    (signs : SignsTakeSigns pattern pieces) : Reads pattern text := by
  obtain ⟨takes, rfl⟩ := cut
  induction takes with
  | nil => exact .done
  | @cons p piece pattern pieces first _ induction =>
      have others : Reads pattern pieces.flatten := induction fun place => signs (place + 1)
      by_cases sign : p = '%'
      · subst sign
        by_cases front : (piece ++ pieces.flatten).head? = some '%'
        · obtain rfl : piece = ['%'] := Option.some.inj (signs 0 rfl front)
          exact .one (.inr rfl) others
        · exact .run piece front others
      · obtain ⟨c, rfl, fits⟩ := first.exists_one sign
        exact .one fits others

theorem iff_exists_cut :
    Reads pattern text ↔ ∃ pieces, Cut pattern text pieces ∧ SignsTakeSigns pattern pieces :=
  ⟨exists_cut, fun ⟨_, cut, signs⟩ => of_cut cut signs⟩

/-- How a pattern can begin to take a text. -/
theorem cons_iff {p : Char} : Reads (p :: pattern) text ↔
    (∃ c others, text = c :: others ∧ (p = '_' ∨ p = c) ∧ Reads pattern others) ∨
      p = '%' ∧ text.head? ≠ some '%' ∧ ∃ left, left <:+ text ∧ Reads pattern left := by
  constructor
  · intro reads
    cases reads with
    | one fits others => exact .inl ⟨_, _, rfl, fits, others⟩
    | run piece free others => exact .inr ⟨rfl, free, _, List.suffix_append _ _, others⟩
  · rintro (⟨c, others, rfl, fits, reads⟩ | ⟨rfl, free, left, ⟨piece, rfl⟩, reads⟩)
    · exact .one fits reads
    · exact .run piece free reads

/-- Nothing is left of a text when only percent signs are left of the pattern. -/
theorem nil_iff : Reads pattern [] ↔ pattern.all (· == '%') = true := by
  induction pattern with
  | nil => simp [Reads.done]
  | cons p pattern induction => simp [cons_iff, induction]

/-- A character that fits the next of the text takes it. -/
theorem cons_iff_of_fits {p c : Char} (fits : p = '_' ∨ p = c) :
    Reads (p :: pattern) (c :: text) ↔ Reads pattern text := by
  rw [cons_iff]
  constructor
  · rintro (⟨c, others, same, -, reads⟩ | ⟨rfl, free, -⟩)
    · obtain ⟨-, rfl⟩ := List.cons.inj same
      exact reads
    · have taken : c = '%' := (fits.resolve_left (by decide)).symm
      exact absurd (congrArg some taken) free
  · exact fun reads => .inl ⟨c, text, rfl, fits, reads⟩

/-- What following a pattern along a text says of whether it takes the text. -/
theorem iff_follow : Reads pattern text ↔
    match follow pattern text with
    | .ended matched => matched = true
    | .wildcard rest left => ∃ others, others <:+ left ∧ Reads rest others
    | .mismatch => False := by
  fun_induction follow pattern text with
  | case1 pattern => exact nil_iff
  | case2 c text => simpa using (nofun : ¬ Reads [] (c :: text))
  | case3 p pattern c text fits induction => rw [cons_iff_of_fits fits, induction]
  | case4 pattern c text unfit =>
      have other : c ≠ '%' := fun same => unfit (.inr same.symm)
      simp [cons_iff, other, Ne.symm other]
  | case5 p pattern c text unfit other =>
      simp [cons_iff, other, unfit]

/-- A pattern that takes an end of a text leaves an end of it to what stands behind its first
character. -/
theorem exists_suffix {p : Char} {whole : List Char} (reads : Reads (p :: pattern) text)
    (inside : text <:+ whole) : ∃ left, left <:+ whole ∧ Reads pattern left := by
  rcases cons_iff.mp reads with ⟨c, others, rfl, -, rest⟩ | ⟨-, -, left, behind, rest⟩
  · exact ⟨others, (List.suffix_cons c others).trans inside, rest⟩
  · exact ⟨left, behind.trans inside, rest⟩

/-- An end of a text that a pattern takes leaves the pattern behind the first wildcard an end of what
the text has behind it. -/
theorem exists_of_follow_wildcard (stopped : follow pattern text = .wildcard rest left)
    {others : List Char} (reads : Reads pattern others) (inside : others <:+ text) :
    ∃ final, final <:+ left ∧ Reads rest final := by
  fun_induction follow pattern text generalizing others with
  | case1 | case2 | case5 => contradiction
  | case3 p pattern c text fits induction =>
      rcases List.suffix_cons_iff.mp inside with rfl | shorter
      · exact induction stopped ((cons_iff_of_fits fits).mp reads) List.suffix_rfl
      · obtain ⟨final, within, rest⟩ := reads.exists_suffix shorter
        exact induction stopped rest within
  | case4 pattern c text unfit =>
      obtain ⟨rfl, rfl⟩ := Attempt.wildcard.inj stopped
      exact reads.exists_suffix inside

/-- A pattern that goes on where a text ends takes no end of the text. -/
theorem matched_of_follow_ended {matched : Bool} (ended : follow pattern text = .ended matched)
    {others : List Char} (reads : Reads pattern others) (inside : others <:+ text) :
    matched = true := by
  fun_induction follow pattern text generalizing others with
  | case2 | case4 | case5 => contradiction
  | case1 pattern =>
      obtain rfl := List.suffix_nil.mp inside
      obtain rfl := Attempt.ended.inj ended
      exact nil_iff.mp reads
  | case3 p pattern c text fits induction =>
      rcases List.suffix_cons_iff.mp inside with rfl | shorter
      · exact induction ended ((cons_iff_of_fits fits).mp reads) List.suffix_rfl
      · obtain ⟨final, within, rest⟩ := reads.exists_suffix shorter
        exact induction ended rest within

end Reads

/-- A search finds out whether the pattern takes an end of the text. -/
theorem search_iff {pattern text : List Char} :
    search pattern text = true ↔ ∃ left, left <:+ text ∧ Reads pattern left := by
  fun_induction search pattern text with
  | case1 pattern text matched ended =>
      constructor
      · rintro rfl
        exact ⟨text, List.suffix_rfl, Reads.iff_follow.mpr (by simp [ended])⟩
      · rintro ⟨left, inside, reads⟩
        exact reads.matched_of_follow_ended ended inside
  | case2 pattern text rest left stopped shorter induction =>
      rw [induction]
      constructor
      · intro found
        exact ⟨text, List.suffix_rfl, Reads.iff_follow.mpr (by simpa [stopped] using found)⟩
      · rintro ⟨others, inside, reads⟩
        exact reads.exists_of_follow_wildcard stopped inside
  | case3 pattern stopped =>
      cases pattern <;> cases stopped
  | case4 pattern c text stopped induction =>
      have unread : ¬ Reads pattern (c :: text) := by simp [Reads.iff_follow, stopped]
      rw [induction]
      simp only [List.suffix_cons_iff, or_and_right, exists_or, exists_eq_left, unread, false_or]

theorem accepts_iff_reads {pattern text : List Char} :
    accepts pattern text = true ↔ Reads pattern text := by
  rw [Reads.iff_follow, accepts]
  cases follow pattern text with
  | ended matched => rfl
  | wildcard rest left => exact search_iff
  | mismatch => simp

theorem SignsTakeSigns.of_no_sign {pattern text : List Char} {pieces : List (List Char)}
    (cut : Cut pattern text pieces) (free : '%' ∉ text ∨ '%' ∉ pattern) :
    SignsTakeSigns pattern pieces := by
  intro place sign front
  rcases free with text_free | pattern_free
  · have behind : '%' ∈ (pieces.drop place).flatten := List.mem_of_mem_head? front
    obtain ⟨piece, inside, member⟩ := List.mem_flatten.mp behind
    have within : '%' ∈ pieces.flatten :=
      List.mem_flatten.mpr ⟨piece, List.mem_of_mem_drop inside, member⟩
    exact absurd (cut.flatten_eq ▸ within) text_free
  · exact absurd (List.mem_of_getElem? sign) pattern_free

/-- A text is accepted if and only if it can be cut so that each percent sign with a percent sign in
front of it takes this one and no more.  So every text that is accepted matches, and a text without
percent signs, or one for a pattern without, is accepted if and only if it matches. -/
theorem accepts_iff_cut (pattern text : List Char) :
    (accepts pattern text = true ↔
      ∃ pieces, Cut pattern text pieces ∧ SignsTakeSigns pattern pieces) ∧
    (accepts pattern text = true → Matches pattern text) ∧
    ('%' ∉ text ∨ '%' ∉ pattern → (accepts pattern text = true ↔ Matches pattern text)) := by
  have cuts : accepts pattern text = true ↔
      ∃ pieces, Cut pattern text pieces ∧ SignsTakeSigns pattern pieces :=
    accepts_iff_reads.trans Reads.iff_exists_cut
  have sound : accepts pattern text = true → Matches pattern text := fun accepted =>
    let ⟨pieces, cut, _⟩ := cuts.mp accepted
    ⟨pieces, cut⟩
  refine ⟨cuts, sound, fun free => ⟨sound, ?_⟩⟩
  rintro ⟨pieces, cut⟩
  exact cuts.mpr ⟨pieces, cut, .of_no_sign cut free⟩

/-- A text in which the second half of the pattern fits in several places, and the last wildcard has
to be tried again and again. -/
theorem matches_of_late_run :
    '%' ∉ "abxbabyb-b".toList ∧ Matches "a%b_b%b".toList "abxbabyb-b".toList :=
  ⟨by decide, ((accepts_iff_cut _ _).2.2 (.inl (by decide))).mp
    (by simp [accepts, follow, search])⟩

/-- A percent sign that could take two characters takes only the percent sign that stands first. -/
theorem not_accepts_of_sign_in_front :
    Matches "a%b".toList "a%xb".toList ∧ accepts "a%b".toList "a%xb".toList = false := by
  refine ⟨⟨[['a'], ['%', 'x'], ['b']], ⟨?_, rfl⟩⟩, by simp [accepts, follow]⟩
  simp [Takes]

end Pattern
end SqlEngine
