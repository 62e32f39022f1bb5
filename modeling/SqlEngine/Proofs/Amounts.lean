import SqlEngine.Proofs.Durations
import SqlEngine.Proofs.Rounding

/-!
# Which texts are durations

What has the form of a duration is read as one.  A term is followed by the end or by a digit or a
point, so that its unit is never taken for a longer one, and a numeral ends where its unit begins;
reading term by term as far as each goes therefore finds the terms that the text was put together
from.  So the texts that are read are just those of the form, but for negative ones: these are read
only if they come to zero.
-/

namespace SqlEngine

namespace Scan

variable {α : Type} {form next : List Char → Prop}

/-- Whether a scanner reads every text of a form, wherever something that `next` allows follows. -/
def Recognizes (form next : List Char → Prop) (item : Scan α) : Prop :=
  ∀ ⦃front⦄, form front → ∀ ⦃rest⦄, next rest → ∃ value, item (front ++ rest) = .done (value, rest)

/-- Texts that can follow each other are read one after the other. -/
theorem Recognizes.many1 {item : Scan α} (reads : Recognizes form next item)
    (onward : ∀ front rest, form front → next (front ++ rest)) (ends : next [])
    (stops : item [] = .miss) {parts : List (List Char)} (some : parts ≠ [])
    (each : ∀ part ∈ parts, form part) :
    ∃ values, item.many1 parts.flatten = .done (values, []) := by
  have follows {parts : List (List Char)} (each : ∀ part ∈ parts, form part) :
      next parts.flatten := by
    cases parts with
    | nil => exact ends
    | cons part parts => exact onward part parts.flatten (each part List.mem_cons_self)
  have many {parts : List (List Char)} (each : ∀ part ∈ parts, form part) :
      ∃ values, item.many parts.flatten = .done (values, []) := by
    induction parts with
    | nil =>
        exact ⟨[], many_of_miss stops⟩
    | cons part parts induction =>
        obtain ⟨first, others⟩ := List.forall_mem_cons.mp each
        obtain ⟨value, read⟩ := reads first (follows others)
        obtain ⟨values, rest⟩ := induction others
        have shorter : parts.flatten.length < (part ++ parts.flatten).length := by
          -- A part is not empty, as nothing is read from the empty text.
          have filled : part ≠ [] := by
            rintro rfl
            obtain ⟨value, read⟩ := reads first ends
            rw [List.nil_append, stops] at read
            contradiction
          have := List.length_pos_iff.mpr filled
          rw [List.length_append]
          omega
        exact ⟨value :: values, many_of_done read shorter rest⟩
  obtain ⟨part, parts, rfl⟩ := List.exists_cons_of_ne_nil some
  obtain ⟨first, others⟩ := List.forall_mem_cons.mp each
  obtain ⟨value, read⟩ := reads first (follows others)
  obtain ⟨values, rest⟩ := many others
  refine ⟨value :: values, (bind_of_done read).trans ?_⟩
  exact (bind_of_done rest).trans rfl

end Scan

namespace Duration

open Scan

/-- Whether a text can start with a given character: a term starts with a digit or a point, and
nothing else does. -/
def StartsTerm (c : Char) : Prop :=
  c.isDigit = true ∨ c = '.'

/-- Whether nothing follows, or the start of a term. -/
def Onward (rest : List Char) : Prop :=
  ∀ c ∈ rest.head?, StartsTerm c

/-- Whether something follows that does not go on with a numeral. -/
def Closes (rest : List Char) : Prop :=
  ∀ c ∈ rest.head?, ¬ StartsTerm c

theorem recognizes_unit :
    Recognizes (fun front => ∃ name ∈ unitNames, front = name.toList) Onward unit := by
  rintro _ ⟨name, member, rfl⟩ rest onward
  simp only [unitNames, List.mem_cons, List.not_mem_nil, or_false] at member
  rcases member with rfl | rfl | rfl | rfl | rfl | rfl | rfl | rfl
  case inr.inr.inr.inr.inr.inr.inl =>
    -- Minutes are not taken for milliseconds, as no term starts with the letter of seconds.
    cases rest with
    | nil => exact ⟨_, rfl⟩
    | cons c rest =>
        have other : ('s' == c) = false := by
          refine beq_eq_false_iff_ne.mpr ?_
          rintro rfl
          rcases onward 's' rfl with digit | point
          · exact absurd digit (by decide)
          · exact absurd point (by decide)
        have misses : (exactly "ms" *> pure millisecond : Scan Nat) ("m".toList ++ c :: rest) =
            .miss := by
          refine seqRight_of_miss ?_
          change Attempt.ofOption ((if 's' == c then some rest else none).map _) = .miss
          rw [other]
          rfl
        refine ⟨60 * second, ?_⟩
        refine (orElse_of_miss rfl).trans <| (orElse_of_miss rfl).trans <|
          (orElse_of_miss rfl).trans <| (orElse_of_miss rfl).trans <|
          (orElse_of_miss misses).trans rfl
  all_goals exact ⟨_, rfl⟩

/-- A numeral ends where a unit begins. -/
theorem closes_of_unit {name : String} (known : name ∈ unitNames) (rest : List Char) :
    Closes (name.toList ++ rest) := by
  have begins : ∀ name ∈ unitNames, ∃ c others, name.toList = c :: others ∧ ¬ StartsTerm c := by
    simp [unitNames, StartsTerm, Char.isDigit]
  obtain ⟨first, others, spelled, other⟩ := begins name known
  rw [spelled]
  rintro c ⟨⟩
  exact other

theorem recognizes_amount : Recognizes IsNumeral Closes amount := by
  intro front numeric rest closes
  have stops : ∀ c ∈ rest.head?, c.isDigit = false := fun c first =>
    Bool.eq_false_iff.mpr fun digit => closes c first (.inl digit)
  have behindPoint (rest : List Char) : ∀ c ∈ ('.' :: rest).head?, c.isDigit = false := by
    rintro c ⟨⟩
    rfl
  cases numeric with
  | digits some all =>
      have noPoint : char '.' rest = .miss := by
        cases rest with
        | nil => rfl
        | cons c rest => exact char_of_ne (fun point => closes c rfl (.inr point)) rest
      have fractional : (char '.' *> span Char.isDigit <|> pure [] : Scan (List Char)) rest =
          .done ([], rest) := (orElse_of_miss (seqRight_of_miss noPoint)).trans rfl
      have here : front.isEmpty ≠ true := by simpa using some
      exact ⟨_, (bind_of_done (span_append all stops)).trans <|
        (congrFun (if_neg here) _).trans <| (bind_of_done fractional).trans rfl⟩
  | @pointed whole fraction some all behind =>
      have fractional : (char '.' *> span Char.isDigit <|> pure [] : Scan (List Char))
          ('.' :: (fraction ++ rest)) = .done (fraction, rest) :=
        orElse_of_done ((seqRight_of_done (char_self _ _)).trans (span_append behind stops))
      have here : whole.isEmpty ≠ true := by simpa using some
      rw [List.append_assoc, List.cons_append]
      exact ⟨_, (bind_of_done (span_append all (behindPoint _))).trans <|
        (congrFun (if_neg here) _).trans <| (bind_of_done fractional).trans rfl⟩
  | @fraction fraction some behind =>
      have nothing : span Char.isDigit ('.' :: (fraction ++ rest)) =
          .done ([], '.' :: (fraction ++ rest)) :=
        span_append (List.forall_mem_nil _) (behindPoint _)
      exact ⟨_, (bind_of_done nothing).trans <| (congrFun (if_pos List.isEmpty_nil) _).trans <|
        (bind_of_done (char_self _ _)).trans <|
        (bind_of_done (span1_append some behind stops)).trans rfl⟩

theorem recognizes_term : Recognizes IsTerm Onward term := by
  rintro _ ⟨numeral, numeric, name, known, rfl⟩ rest onward
  obtain ⟨value, counted⟩ := recognizes_amount numeric (closes_of_unit known rest)
  obtain ⟨factor, named⟩ := recognizes_unit ⟨name, known, rfl⟩ onward
  rw [List.append_assoc]
  exact ⟨_, (bind_of_done counted).trans ((bind_of_done named).trans rfl)⟩

/-- A numeral starts with a digit or with its point. -/
theorem IsNumeral.exists_cons {chars : List Char} (numeric : IsNumeral chars) :
    ∃ c rest, chars = c :: rest ∧ StartsTerm c := by
  cases numeric with
  | digits some all =>
      obtain ⟨c, rest, rfl⟩ := List.exists_cons_of_ne_nil some
      exact ⟨c, rest, rfl, .inl (all c List.mem_cons_self)⟩
  | pointed some all _ =>
      obtain ⟨c, rest, rfl⟩ := List.exists_cons_of_ne_nil some
      exact ⟨c, _, rfl, .inl (all c List.mem_cons_self)⟩
  | fraction => exact ⟨'.', _, rfl, .inr rfl⟩

theorem IsTerm.exists_cons {chars : List Char} (formed : IsTerm chars) :
    ∃ c rest, chars = c :: rest ∧ StartsTerm c := by
  obtain ⟨numeral, numeric, name, -, rfl⟩ := formed
  obtain ⟨c, rest, rfl, starts⟩ := numeric.exists_cons
  exact ⟨c, rest ++ name.toList, rfl, starts⟩

theorem IsTotal.exists_cons {chars : List Char} (formed : IsTotal chars) :
    ∃ c rest, chars = c :: rest ∧ StartsTerm c := by
  cases formed with
  | zero => exact ⟨'0', [], rfl, .inl rfl⟩
  | terms some each =>
      obtain ⟨part, parts, rfl⟩ := List.exists_cons_of_ne_nil some
      obtain ⟨c, rest, rfl, starts⟩ := (each part List.mem_cons_self).exists_cons
      exact ⟨c, rest ++ parts.flatten, rfl, starts⟩

/-- A total is read to its end. -/
theorem IsTotal.exists_total {chars : List Char} (formed : IsTotal chars) :
    ∃ rank, total chars = .done (rank, []) := by
  cases formed with
  | zero =>
      -- The digit is an amount, but no unit stands behind it.
      have noTerm : term ['0'] = .miss := rfl
      exact ⟨_, (orElse_of_miss (bind_of_miss (bind_of_miss noTerm))).trans rfl⟩
  | terms some each =>
      obtain ⟨values, read⟩ := recognizes_term.many1
        (fun front rest formed => by
          obtain ⟨c, others, rfl, starts⟩ := formed.exists_cons
          rintro _ ⟨⟩
          exact starts)
        (by rintro c ⟨⟩) rfl some each
      exact ⟨_, orElse_of_done ((bind_of_done read).trans rfl)⟩

/-- A sign that a total stands behind is read, and tells whether the total is negative. -/
theorem reads_sign {sign total : List Char} (known : sign = [] ∨ sign = ['+'] ∨ sign = ['-'])
    (formed : IsTotal total) :
    ((char '-' *> pure true) <|> (char '+' *> pure false) <|> pure false : Scan Bool)
      (sign ++ total) = .done (decide (sign = ['-']), total) := by
  rcases known with rfl | rfl | rfl
  · obtain ⟨c, rest, rfl, starts⟩ := formed.exists_cons
    have noSign {sign : Char} (other : ¬ StartsTerm sign) : char sign (c :: rest) = .miss := by
      refine char_of_ne ?_ rest
      rintro rfl
      exact other starts
    exact (orElse_of_miss (seqRight_of_miss (noSign (by simp [StartsTerm, Char.isDigit])))).trans
      (orElse_of_miss (seqRight_of_miss (noSign (by simp [StartsTerm, Char.isDigit]))))
  · exact (orElse_of_miss rfl).trans rfl
  · rfl

/-- A text of the form of a duration is read to its end. -/
theorem exists_signedTotal {sign rest : List Char}
    (known : sign = [] ∨ sign = ['+'] ∨ sign = ['-']) (formed : IsTotal rest) :
    ∃ rank, signedTotal (sign ++ rest) = .done ((decide (sign = ['-']), rank), []) := by
  obtain ⟨rank, read⟩ := formed.exists_total
  exact ⟨rank, (bind_of_done (reads_sign known formed)).trans ((bind_of_done read).trans rfl)⟩

/-- The lowest rank is that of no time at all. -/
theorem toNat_of_val_eq_zero {rank : Binary64.Rank} (lowest : rank.val = 0) : rank.toNat = 0 := by
  have units : rank.units = 0 := by
    rw [Binary64.Rank.units, if_pos (by rw [lowest]; decide), lowest]
  have positive := Binary64.unitsOfOne_pos
  rw [Binary64.Rank.toNat, units]
  exact Nat.div_eq_of_lt (by omega)

/-- What is read behind a minus sign is a total that comes to nothing. -/
theorem eq_zero_of_minus {text : String} {rest : List Char} (minus : text.toList = '-' :: rest)
    {duration : Duration} (read : ofText text = .ok duration) : IsTotal rest ∧ duration = 0 := by
  obtain ⟨sign, total, known, formed, split⟩ := isSigned_of_ofText read
  obtain ⟨rfl, rfl⟩ : sign = ['-'] ∧ total = rest := by
    obtain ⟨c, others, rfl, starts⟩ := formed.exists_cons
    rw [minus] at split
    rcases known with rfl | rfl | rfl
    · obtain ⟨rfl, -⟩ := List.cons.inj split
      simp [StartsTerm, Char.isDigit] at starts
    · simp at split
    · exact ⟨rfl, (List.cons.inj split).2.symm⟩
  obtain ⟨rank, found⟩ := exists_signedTotal known formed
  rw [← split] at found
  refine ⟨formed, ?_⟩
  rw [ofText, whole_eq_some.mpr found] at read
  by_cases nothing : rank.val = 0
  · simpa [nothing, toNat_of_val_eq_zero nothing] using read.symm
  · simp [nothing] at read

/-- A text without a minus sign is read as a duration just when it is a zero or a list of terms,
perhaps with a plus sign in front; one with a minus sign is read only if such a total stands behind
the sign, and then stands for no time at all. -/
theorem exists_ofText_iff_formed (text : String) :
    (text.toList.head? ≠ some '-' →
      ((∃ duration, ofText text = .ok duration) ↔
        ∃ sign total, (sign = [] ∨ sign = ['+']) ∧ IsTotal total ∧ text.toList = sign ++ total)) ∧
    ∀ rest, text.toList = '-' :: rest →
      ∀ duration, ofText text = .ok duration → IsTotal rest ∧ duration = 0 := by
  refine ⟨fun positive => ⟨?_, ?_⟩, fun rest minus duration => eq_zero_of_minus minus⟩
  · rintro ⟨duration, read⟩
    obtain ⟨sign, total, known, formed, split⟩ := isSigned_of_ofText read
    refine ⟨sign, total, ?_, formed, split⟩
    rcases known with none | plus | rfl
    · exact .inl none
    · exact .inr plus
    · exact absurd (by rw [split]; rfl) positive
  · rintro ⟨sign, total, known, formed, split⟩
    have unsigned : sign ≠ ['-'] := by
      rcases known with rfl | rfl <;> simp
    obtain ⟨rank, read⟩ := exists_signedTotal (known.imp_right .inl) formed
    rw [← split] at read
    refine ⟨min rank.toNat longest, ?_⟩
    rw [ofText, whole_eq_some.mpr read]
    simp [unsigned]

/-- A minute and half a second are read, and behind a minus sign nothing is but a zero. -/
theorem minute_and_half_second :
    (∃ duration, ofText "+1m.5s" = .ok duration) ∧ IsTotal ['0'] := by
  have one : IsNumeral ['1'] := .digits (by decide) (List.forall_mem_singleton.mpr rfl)
  have half : IsNumeral ['.', '5'] := .fraction (by decide) (List.forall_mem_singleton.mpr rfl)
  have minute : IsTerm "1m".toList := ⟨['1'], one, "m", by decide, rfl⟩
  have seconds : IsTerm ".5s".toList := ⟨['.', '5'], half, "s", by decide, rfl⟩
  have formed : IsTotal "1m.5s".toList :=
    .terms (List.cons_ne_nil "1m".toList [".5s".toList])
      (List.forall_mem_cons.mpr ⟨minute, List.forall_mem_singleton.mpr seconds⟩)
  have nothing : ofText "-0" = .ok 0 := by
    have read : Scan.whole signedTotal "-0" = some (true, Binary64.Rank.ofNat 0) := rfl
    have lowest : (Binary64.Rank.ofNat 0).val = 0 := rfl
    simp [ofText, read, lowest, toNat_of_val_eq_zero lowest]
  exact ⟨((exists_ofText_iff_formed "+1m.5s").1 (by decide)).mpr
      ⟨['+'], "1m.5s".toList, .inr rfl, formed, rfl⟩,
    ((exists_ofText_iff_formed "-0").2 ['0'] rfl 0 nothing).1⟩

end Duration
end SqlEngine
