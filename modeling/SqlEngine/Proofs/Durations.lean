import SqlEngine.Duration
import SqlEngine.Proofs.Scanning
import Mathlib.Data.List.TakeWhile

/-!
# Texts of durations

A duration is a zero or a list of terms, each a numeral with a unit, and may have a sign in front.
What is read as a duration has this form.
-/

namespace SqlEngine

namespace Scan

variable {α : Type} {form wider : List Char → Prop}

/-- Whether a scanner only takes texts of a given form. -/
def Takes (form : List Char → Prop) (item : Scan α) : Prop :=
  ∀ ⦃chars value rest⦄, item chars = .done (value, rest) →
    ∃ front, form front ∧ chars = front ++ rest

theorem Takes.mono {item : Scan α} (takes : Takes form item)
    (all : ∀ front, form front → wider front) : Takes wider item := by
  intro chars value rest read
  obtain ⟨front, formed, split⟩ := takes read
  exact ⟨front, all front formed, split⟩

theorem Takes.orElse {first second : Scan α} (here : Takes form first)
    (there : Takes form second) : Takes form (first <|> second) := by
  intro chars value rest read
  rcases orElse_eq_done.mp read with read | ⟨-, read⟩
  · exact here read
  · exact there read

theorem takes_pure (value : α) : Takes (· = []) (pure value : Scan α) := by
  intro chars result rest read
  obtain ⟨-, rfl⟩ := pure_eq_done.mp read
  exact ⟨[], rfl, rfl⟩

theorem takes_char (expected : Char) (value : α) :
    Takes (· = [expected]) (char expected *> pure value) := by
  intro chars result rest read
  obtain ⟨_, left, found, done⟩ := seqRight_eq_done.mp read
  obtain rfl := char_eq_done.mp found
  obtain ⟨-, rfl⟩ := pure_eq_done.mp done
  exact ⟨[expected], rfl, rfl⟩

theorem takes_exactly (text : String) (value : α) :
    Takes (· = text.toList) (exactly text *> pure value) := by
  intro chars result rest read
  obtain ⟨_, left, found, done⟩ := seqRight_eq_done.mp read
  obtain ⟨-, rfl⟩ := pure_eq_done.mp done
  exact ⟨text.toList, rfl, eq_append_of_strip? (exactly_eq_done.mp found)⟩

theorem split_of_span {test : Char → Bool} {chars front rest : List Char}
    (read : span test chars = .done (front, rest)) :
    chars = front ++ rest ∧ ∀ c ∈ front, test c = true := by
  obtain ⟨rfl, rfl⟩ := Prod.mk.inj (Attempt.done.inj read)
  exact ⟨List.takeWhile_append_dropWhile.symm, fun c => List.mem_takeWhile_imp⟩

theorem split_of_span1 {test : Char → Bool} {chars front rest : List Char}
    (read : span1 test chars = .done (front, rest)) :
    front ≠ [] ∧ chars = front ++ rest ∧ ∀ c ∈ front, test c = true := by
  obtain ⟨first, left, found, read⟩ := bind_eq_done.mp read
  obtain ⟨others, behind, spanned, done⟩ := bind_eq_done.mp read
  obtain ⟨rfl, rfl⟩ := pure_eq_done.mp done
  obtain ⟨rfl, passes⟩ := satisfy_eq_done.mp found
  obtain ⟨rfl, all⟩ := split_of_span spanned
  exact ⟨List.cons_ne_nil first others, rfl, List.forall_mem_cons.mpr ⟨passes, all⟩⟩

/-- Several items take several texts, one behind the other. -/
theorem Takes.many1 {item : Scan α} (takes : Takes form item) :
    Takes (fun front => ∃ parts, parts ≠ [] ∧ (∀ part ∈ parts, form part) ∧ front = parts.flatten)
      item.many1 := by
  have many {chars left : List Char} {values : List α}
      (read : item.many chars = .done (values, left)) :
      ∃ parts : List (List Char), (∀ part ∈ parts, form part) ∧ chars = parts.flatten ++ left := by
    refine many_induction
      (motive := fun chars _ left =>
        ∃ parts : List (List Char), (∀ part ∈ parts, form part) ∧ chars = parts.flatten ++ left)
      (fun chars => ⟨[], by simp, rfl⟩) ?_ read
    rintro chars first rest others left here - ⟨parts, all, rfl⟩
    obtain ⟨front, formed, rfl⟩ := takes here
    refine ⟨front :: parts, List.forall_mem_cons.mpr ⟨formed, all⟩, ?_⟩
    rw [List.flatten_cons, List.append_assoc]
  intro chars values rest read
  obtain ⟨first, left, here, read⟩ := bind_eq_done.mp read
  obtain ⟨others, behind, there, done⟩ := bind_eq_done.mp read
  obtain ⟨-, rfl⟩ := pure_eq_done.mp done
  obtain ⟨front, formed, rfl⟩ := takes here
  obtain ⟨parts, all, rfl⟩ := many there
  exact ⟨front ++ parts.flatten,
    ⟨front :: parts, by simp, List.forall_mem_cons.mpr ⟨formed, all⟩, rfl⟩, by simp⟩

end Scan

namespace Duration

/-- Whether a text is digits, with a point behind or among them, or in front of them, or none. -/
inductive IsNumeral : List Char → Prop where
  /-- There is no point. -/
  | digits {whole : List Char} (some : whole ≠ []) (all : ∀ c ∈ whole, c.isDigit = true) :
      IsNumeral whole
  /-- There is a point behind the first digits, perhaps with more digits behind it. -/
  | pointed {whole fraction : List Char} (some : whole ≠ [])
      (all : ∀ c ∈ whole, c.isDigit = true) (behind : ∀ c ∈ fraction, c.isDigit = true) :
      IsNumeral (whole ++ '.' :: fraction)
  /-- The point stands in front. -/
  | fraction {fraction : List Char} (some : fraction ≠ [])
      (behind : ∀ c ∈ fraction, c.isDigit = true) : IsNumeral ('.' :: fraction)

/-- The units as they are written; two letters stand for the micro sign. -/
def unitNames : List String :=
  ["ns", "us", "\u00b5s", "\u03bcs", "ms", "s", "m", "h"]

/-- Whether a text is a numeral with a unit. -/
def IsTerm (chars : List Char) : Prop :=
  ∃ numeral, IsNumeral numeral ∧ ∃ name ∈ unitNames, chars = numeral ++ name.toList

/-- Whether a text is a zero, or several terms. -/
inductive IsTotal : List Char → Prop where
  /-- There is a zero, without a unit. -/
  | zero : IsTotal ['0']
  /-- There are terms, one behind the other. -/
  | terms {parts : List (List Char)} (some : parts ≠ []) (each : ∀ part ∈ parts, IsTerm part) :
      IsTotal parts.flatten

/-- Whether a text is a total, perhaps with a sign in front. -/
def IsSigned (chars : List Char) : Prop :=
  ∃ sign total, (sign = [] ∨ sign = ['+'] ∨ sign = ['-']) ∧ IsTotal total ∧ chars = sign ++ total

open Scan

theorem takes_unit : Takes (fun front => ∃ name ∈ unitNames, front = name.toList) unit := by
  have named {name : String} (member : name ∈ unitNames) (value : Nat) :
      Takes (fun front => ∃ name ∈ unitNames, front = name.toList) (exactly name *> pure value) :=
    (takes_exactly name value).mono fun _ same => ⟨name, member, same⟩
  exact (named (by decide) _).orElse <| (named (by decide) _).orElse <|
    (named (by decide) _).orElse <| (named (by decide) _).orElse <|
    (named (by decide) _).orElse <| (named (by decide) _).orElse <|
    (named (by decide) _).orElse (named (by decide) _)

theorem takes_amount : Takes IsNumeral amount := by
  intro chars value rest read
  obtain ⟨whole, left, spanned, read⟩ := bind_eq_done.mp read
  obtain ⟨split, digits⟩ := split_of_span spanned
  by_cases none : whole = []
  · rw [none, if_pos List.isEmpty_nil] at read
    obtain ⟨_, behind, point, read⟩ := bind_eq_done.mp read
    obtain ⟨fraction, back, digits, done⟩ := bind_eq_done.mp read
    obtain ⟨-, rfl⟩ := pure_eq_done.mp done
    obtain rfl := char_eq_done.mp point
    obtain ⟨some, rfl, all⟩ := split_of_span1 digits
    exact ⟨'.' :: fraction, .fraction some all, by rw [split, none]; rfl⟩
  · rw [if_neg (by simpa using none)] at read
    obtain ⟨fraction, back, found, done⟩ := bind_eq_done.mp read
    obtain ⟨-, rfl⟩ := pure_eq_done.mp done
    rcases orElse_eq_done.mp found with pointed | ⟨-, plain⟩
    · obtain ⟨_, behind, point, more⟩ := seqRight_eq_done.mp pointed
      obtain rfl := char_eq_done.mp point
      obtain ⟨rfl, all⟩ := split_of_span more
      exact ⟨whole ++ '.' :: fraction, .pointed none digits all, by simp [split]⟩
    · obtain ⟨-, rfl⟩ := pure_eq_done.mp plain
      exact ⟨whole, .digits none digits, split⟩

theorem takes_term : Takes IsTerm term := by
  intro chars value rest read
  obtain ⟨_, left, numeral, read⟩ := bind_eq_done.mp read
  obtain ⟨_, behind, named, done⟩ := bind_eq_done.mp read
  obtain ⟨-, rfl⟩ := pure_eq_done.mp done
  obtain ⟨front, numeric, rfl⟩ := takes_amount numeral
  obtain ⟨_, ⟨name, known, rfl⟩, rfl⟩ := takes_unit named
  exact ⟨front ++ name.toList, ⟨front, numeric, name, known, rfl⟩, (List.append_assoc ..).symm⟩

theorem takes_total : Takes IsTotal total := by
  refine Takes.orElse ?_ ((takes_char '0' _).mono fun _ same => same ▸ .zero)
  intro chars value rest read
  obtain ⟨_, left, listed, done⟩ := bind_eq_done.mp read
  obtain ⟨-, rfl⟩ := pure_eq_done.mp done
  obtain ⟨_, ⟨parts, some, each, rfl⟩, rfl⟩ := takes_term.many1 listed
  exact ⟨parts.flatten, .terms some each, rfl⟩

theorem takes_signedTotal : Takes IsSigned signedTotal := by
  have sign : Takes (fun front => front = [] ∨ front = ['+'] ∨ front = ['-'])
      ((char '-' *> pure true) <|> (char '+' *> pure false) <|> pure false) :=
    ((takes_char '-' true).mono fun _ same => .inr (.inr same)).orElse
      (((takes_char '+' false).mono fun _ same => .inr (.inl same)).orElse
        ((takes_pure false).mono fun _ same => .inl same))
  intro chars value rest read
  obtain ⟨_, left, signed, read⟩ := bind_eq_done.mp read
  obtain ⟨_, behind, summed, done⟩ := bind_eq_done.mp read
  obtain ⟨-, rfl⟩ := pure_eq_done.mp done
  obtain ⟨front, known, rfl⟩ := sign signed
  obtain ⟨back, formed, rfl⟩ := takes_total summed
  exact ⟨front ++ back, ⟨front, back, known, formed, rfl⟩, (List.append_assoc ..).symm⟩

/-- What is read as a duration has the form of one. -/
theorem isSigned_of_ofText {text : String} {duration : Duration}
    (read : ofText text = .ok duration) : IsSigned text.toList := by
  unfold ofText at read
  split at read
  · contradiction
  · rename_i found
    obtain ⟨front, signed, split⟩ := takes_signedTotal (whole_eq_some.mp found)
    rwa [split, List.append_nil]

/-- A text of the form of a duration is digits, points, signs and the letters of units. -/
theorem IsSigned.mem {chars : List Char} (signed : IsSigned chars) :
    ∀ c ∈ chars, c.isDigit = true ∨ c ∈ ".+-nsu\u00b5\u03bcmh".toList := by
  have unit : ∀ name ∈ unitNames, ∀ c ∈ name.toList, c ∈ ".+-nsu\u00b5\u03bcmh".toList := by
    simp [unitNames]
  have numeral {chars : List Char} (numeric : IsNumeral chars) :
      ∀ c ∈ chars, c.isDigit = true ∨ c = '.' := by
    intro c member
    cases numeric with
    | digits _ all => exact .inl (all c member)
    | pointed _ all behind =>
        rcases List.mem_append.mp member with whole | member
        · exact .inl (all c whole)
        · exact (List.mem_cons.mp member).symm.imp_left (behind c)
    | fraction _ behind => exact (List.mem_cons.mp member).symm.imp_left (behind c)
  obtain ⟨sign, total, known, formed, rfl⟩ := signed
  intro c member
  rcases List.mem_append.mp member with signed | member
  · rcases known with rfl | rfl | rfl
    · cases signed
    · exact .inr (by simp_all)
    · exact .inr (by simp_all)
  · cases formed with
    | zero => exact .inl (by simp_all)
    | terms _ each =>
        obtain ⟨part, listed, member⟩ := List.mem_flatten.mp member
        obtain ⟨digits, numeric, name, known, rfl⟩ := each part listed
        rcases List.mem_append.mp member with inside | behind
        · exact (numeral numeric c inside).imp_right fun point => by simp [point]
        · exact .inr (unit name known c behind)

end Duration
end SqlEngine
