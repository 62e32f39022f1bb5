import SqlEngine.Proofs.Checked
import SqlEngine.Proofs.Letters
import SqlEngine.Statement.Script

/-!
# Texts that do not break their reading

A reading breaks only where a KELVIN SIGN stands in the place of a letter.  On a text without this sign
no production of the grammar breaks, and each leaves such a text to the next.
-/

namespace SqlEngine

/-- Texts without a KELVIN SIGN. -/
def Clear (chars : List Char) : Prop :=
  '\u212a' ∉ chars

theorem Clear.mono {chars others : List Char} (clear : Clear chars) (within : others ⊆ chars) :
    Clear others :=
  fun sign => clear (within sign)

namespace Scan

variable {α β : Type}

/-- Whether a scanner does not break on a clear text, and leaves a clear text. -/
def Sturdy (item : Scan α) : Prop :=
  ∀ ⦃chars⦄, Clear chars → item chars ≠ .broken ∧
    ∀ ⦃value rest⦄, item chars = .done (value, rest) → Clear rest

theorem Sturdy.of_suffix {item : Scan α} (whole : ∀ chars, item chars ≠ .broken)
    (left : ∀ {chars value rest}, item chars = .done (value, rest) → rest <:+ chars) :
    Sturdy item :=
  fun chars clear => ⟨whole chars, fun _ _ read => clear.mono (left read).subset⟩

theorem sturdy_pure (value : α) : Sturdy (pure value) := by
  refine .of_suffix (fun _ => nofun) fun read => ?_
  obtain ⟨-, rfl⟩ := pure_eq_done.mp read
  exact List.suffix_rfl

theorem sturdy_failure : Sturdy (failure : Scan α) :=
  fun _ _ => ⟨nofun, nofun⟩

theorem Sturdy.bind {item : Scan α} {next : α → Scan β} (first : Sturdy item)
    (second : ∀ value, Sturdy (next value)) : Sturdy (item >>= next) := by
  intro chars clear
  obtain ⟨whole, leaves⟩ := first clear
  cases read : item chars with
  | done found => exact bind_of_done read ▸ second found.1 (leaves read)
  | miss =>
      rw [bind_of_miss read]
      exact ⟨nofun, nofun⟩
  | broken => exact absurd read whole

theorem Sturdy.seqRight {item : Scan α} {next : Scan β} (first : Sturdy item)
    (second : Sturdy next) : Sturdy (item *> next) :=
  first.bind fun _ => second

theorem Sturdy.orElse {first second : Scan α} (here : Sturdy first) (there : Sturdy second) :
    Sturdy (first <|> second) := by
  intro chars clear
  obtain ⟨whole, leaves⟩ := here clear
  cases read : first chars with
  | done found =>
      rw [orElse_of_done read, ← read]
      exact ⟨whole, leaves⟩
  | miss => exact orElse_of_miss read ▸ there clear
  | broken => exact absurd read whole

theorem Sturdy.optional {item : Scan α} (sturdy : Sturdy item) : Sturdy (optional item) :=
  (sturdy.bind fun _ => sturdy_pure _).orElse (sturdy_pure none)

theorem Sturdy.consumed {item : Scan α} (sturdy : Sturdy item) : Sturdy item.consumed := by
  intro chars clear
  obtain ⟨whole, leaves⟩ := sturdy clear
  refine ⟨fun breaks => ?_, fun text rest read => ?_⟩
  · unfold Scan.consumed at breaks
    cases read : item chars with
    | broken => exact whole read
    | _ => simp [read] at breaks
  · obtain ⟨value, found, -⟩ := consumed_eq_done.mp read
    exact leaves found

theorem sturdy_satisfy (test : Char → Bool) : Sturdy (satisfy test) := by
  refine .of_suffix (fun chars => ?_) fun read => ?_
  · unfold satisfy
    split
    · split <;> nofun
    · nofun
  · obtain ⟨rfl, -⟩ := satisfy_eq_done.mp read
    exact List.suffix_cons _ _

theorem sturdy_char (expected : Char) : Sturdy (char expected) :=
  (sturdy_satisfy _).bind fun _ => sturdy_pure ()

theorem sturdy_span (test : Char → Bool) : Sturdy (span test) := by
  refine .of_suffix (fun _ => nofun) fun read => ?_
  obtain ⟨-, rfl⟩ := Prod.mk.inj (Attempt.done.inj read)
  exact List.dropWhile_suffix test

theorem sturdy_span1 (test : Char → Bool) : Sturdy (span1 test) :=
  (sturdy_satisfy test).bind fun _ => (sturdy_span test).bind fun _ => sturdy_pure _

theorem sturdy_notNext (test : Char → Bool) : Sturdy (notNext test) := by
  intro chars clear
  unfold notNext
  split
  · split
    · exact ⟨nofun, nofun⟩
    · exact sturdy_pure () clear
  · exact sturdy_pure () clear

theorem sturdy_exactly (text : String) : Sturdy (exactly text) := by
  refine .of_suffix (fun chars => ?_) fun read => ?_
  · unfold exactly
    cases strip? (· == ·) text.toList chars <;> nofun
  · exact ⟨text.toList, (eq_append_of_strip? (exactly_eq_done.mp read)).symm⟩

theorem Sturdy.many {item : Scan α} (sturdy : Sturdy item) : Sturdy item.many := by
  intro chars clear
  fun_induction Scan.many item chars with
  | case1 chars misses => exact sturdy_pure [] clear
  | case2 chars breaks => exact absurd breaks (sturdy clear).1
  | case3 chars first rest here shorter induction =>
      obtain ⟨whole, leaves⟩ := induction ((sturdy clear).2 here)
      cases again : item.many rest with
      | done found => exact sturdy_pure (first :: found.1) (leaves again)
      | miss => exact sturdy_failure clear
      | broken => exact absurd again whole
  | case4 chars first rest here stuck => exact sturdy_pure [] clear

theorem Sturdy.sepBy1 {separator : Scan β} {item : Scan α} (between : Sturdy separator)
    (sturdy : Sturdy item) : Sturdy (sepBy1 separator item) :=
  sturdy.bind fun _ => (between.seqRight sturdy).many.bind fun _ => sturdy_pure _

end Scan

namespace Grammar

open Scan
open Wording (isPlain letters_plain)

variable {α : Type}

/-! ## Words, names and signs -/

/-- Without the sign that counts as a K, what agrees with letters is cut off letter by letter. -/
theorem bytes_ne_broken {expected chars : List Char} {count : Nat}
    (plain : ∀ c ∈ expected, isLetter c = true) (agree : agrees expected chars = true)
    (short : count ≤ expected.length) (clear : Clear chars) : bytes count chars ≠ .broken := by
  induction expected generalizing chars count with
  | nil => simp [Nat.le_zero.mp short, Wording.bytes_zero]
  | cons letter expected induction =>
      cases count with
      | zero => simp [Wording.bytes_zero]
      | succ count =>
          cases chars with
          | nil => simp [bytes]
          | cons c chars =>
              obtain ⟨expects, plain⟩ := List.forall_mem_cons.mp plain
              obtain ⟨same, agree⟩ := Wording.agrees_cons.mp agree
              obtain ⟨other, clear⟩ := List.ne_and_not_mem_of_not_mem_cons clear
              rcases Wording.letter_of_small_eq expects same with ⟨one, -⟩ | ⟨sign, -⟩
              · have fits : 1 ≤ count + 1 := Nat.le_add_left 1 count
                have whole := induction plain agree (Nat.le_of_succ_le_succ short) clear
                rw [bytes, Wording.utf8Size_of_letter one, if_pos fits, Nat.add_sub_cancel]
                cases cut : bytes count chars with
                | broken => exact absurd cut whole
                | _ => simp
              · exact absurd sign.symm other

theorem sturdy_letters {expected : String} (plain : isPlain expected = true) :
    Sturdy (letters expected) := by
  intro chars clear
  have plain := letters_plain plain
  refine ⟨fun breaks => ?_, fun lexeme rest read => ?_⟩
  · unfold letters at breaks
    split at breaks
    · rename_i agree
      have short := Nat.le_of_eq (Wording.utf8ByteSize_of_letters plain)
      cases cut : bytes expected.utf8ByteSize chars with
      | broken => exact bytes_ne_broken plain agree short clear cut
      | _ => simp [cut] at breaks
    · contradiction
  · obtain ⟨front, -, cut, -⟩ := Wording.agrees_of_letters read
    rw [Wording.eq_append_of_bytes cut] at clear
    exact clear.mono (List.subset_append_right _ _)

theorem sturdy_spaced {item : Scan α} (sturdy : Sturdy item) : Sturdy (spaced item) :=
  (sturdy_span _).bind fun _ => sturdy.bind fun _ => (sturdy_span _).bind fun _ => sturdy_pure _

theorem sturdy_word {expected : String} (plain : isPlain expected = true) :
    Sturdy (word expected) :=
  sturdy_spaced ((sturdy_letters plain).bind fun _ => (sturdy_notNext _).bind fun _ =>
    sturdy_pure _)

theorem sturdy_wordNode {token : Token} {expected : String} (plain : isPlain expected = true) :
    Sturdy (wordNode token expected) :=
  (sturdy_word plain).bind fun _ => sturdy_pure _

theorem sturdy_sign (expected : Char) : Sturdy (sign expected) :=
  sturdy_spaced (sturdy_char expected)

theorem sturdy_bareName : Sturdy bareName := by
  refine (sturdy_satisfy _).bind fun _ => (sturdy_span _).bind fun others => ?_
  dsimp only
  split
  · exact sturdy_failure
  · exact sturdy_pure _

theorem sturdy_nameWithin (quote : Char) : Sturdy (nameWithin quote) :=
  (sturdy_char _).bind fun _ => (sturdy_span _).bind fun _ => (sturdy_char _).bind fun _ =>
    sturdy_pure _

theorem sturdy_name : Sturdy name :=
  sturdy_spaced ((sturdy_nameWithin _).orElse ((sturdy_nameWithin _).orElse sturdy_bareName))

theorem sturdy_nameNode : Sturdy nameNode :=
  sturdy_name.bind fun _ => sturdy_pure _

theorem sturdy_listed {item : Scan α} (sturdy : Sturdy item) : Sturdy (listed item) :=
  (sturdy_sign _).sepBy1 sturdy

theorem sturdy_bracketed {item : Scan α} (sturdy : Sturdy item) : Sturdy (bracketed item) :=
  (sturdy_sign _).bind fun _ => sturdy.bind fun _ => (sturdy_sign _).bind fun _ => sturdy_pure _

/-! ## Literals -/

theorem suffix_of_stringRest {chars content rest : List Char}
    (read : stringRest chars = some (content, rest)) : rest <:+ chars := by
  fun_induction stringRest chars generalizing content with
  | case1 => contradiction
  | case2 others induction =>
      obtain ⟨⟨content, left⟩, found, same⟩ := Option.map_eq_some_iff.mp read
      obtain ⟨-, rfl⟩ := Prod.mk.inj same
      exact ((induction found).trans (List.suffix_cons _ _)).trans (List.suffix_cons _ _)
  | case3 =>
      obtain ⟨-, rfl⟩ := Prod.mk.inj (Option.some.inj read)
      exact List.suffix_cons _ _
  | case4 =>
      obtain ⟨-, rfl⟩ := Prod.mk.inj (Option.some.inj read)
      exact List.nil_suffix
  | case5 c others plain induction =>
      obtain ⟨⟨content, left⟩, found, same⟩ := Option.map_eq_some_iff.mp read
      obtain ⟨-, rfl⟩ := Prod.mk.inj same
      exact (induction found).trans (List.suffix_cons _ _)

theorem sturdy_stringLiteral : Sturdy stringLiteral := by
  refine (sturdy_char _).bind fun _ => Sturdy.bind ?_ fun _ => sturdy_pure _
  refine .of_suffix (fun chars => ?_) fun read => ?_
  · cases stringRest chars <;> nofun
  · exact suffix_of_stringRest (Attempt.ofOption_eq_done.mp read)

theorem sturdy_digits : Sturdy digits :=
  (sturdy_span1 _).bind fun _ => sturdy_pure _

theorem sturdy_number : Sturdy number := by
  have minus : Sturdy ((Scan.char '-' *> pure ['-']) <|> pure []) :=
    ((sturdy_char _).seqRight (sturdy_pure _)).orElse (sturdy_pure [])
  have places : Sturdy (fraction <|> pure []) :=
    ((sturdy_char _).bind fun _ => (sturdy_span1 _).bind fun _ => sturdy_pure _).orElse
      (sturdy_pure [])
  exact minus.bind fun _ => (sturdy_span1 _).bind fun _ => places.bind fun _ => sturdy_pure _

theorem sturdy_currentTime : Sturdy currentTime :=
  (((sturdy_letters rfl).seqRight (sturdy_sign _)).seqRight (sturdy_char _)).consumed.orElse
    (sturdy_letters rfl)

theorem sturdy_literal : Sturdy literal := by
  have leaf {token : Token} {item : Scan String} (sturdy : Sturdy item) :
      Sturdy (do return ({ token, lexeme := ← item } : Tree)) :=
    sturdy.bind fun _ => sturdy_pure _
  refine sturdy_spaced ((sturdy_wordNode rfl).orElse ((sturdy_wordNode rfl).orElse ?_))
  refine (sturdy_wordNode rfl).orElse ((leaf sturdy_currentTime).orElse ?_)
  exact (leaf sturdy_stringLiteral).orElse (leaf sturdy_number)

/-! ## Conditions -/

theorem sturdy_oneOf (signs : List (String × Token)) : Sturdy (oneOf signs) := by
  induction signs with
  | nil => exact sturdy_failure
  | cons entry signs induction =>
      exact ((sturdy_exactly _).seqRight (sturdy_pure _)).orElse induction

theorem sturdy_term : Sturdy term := by
  have notNull : Sturdy isNotNull :=
    sturdy_nameNode.bind fun _ => (sturdy_word rfl).bind fun _ => (sturdy_word rfl).bind fun _ =>
      (sturdy_word rfl).bind fun _ => sturdy_pure _
  have null : Sturdy isNull :=
    sturdy_nameNode.bind fun _ => (sturdy_word rfl).bind fun _ => (sturdy_word rfl).bind fun _ =>
      sturdy_pure _
  have among : Sturdy inList :=
    sturdy_nameNode.bind fun _ => (sturdy_word rfl).bind fun _ =>
      (sturdy_bracketed (sturdy_listed sturdy_literal)).bind fun _ => sturdy_pure _
  have matching : Sturdy like :=
    sturdy_nameNode.bind fun _ => (sturdy_word rfl).bind fun _ => sturdy_literal.bind fun _ =>
      sturdy_pure _
  have compared : Sturdy comparison :=
    sturdy_nameNode.bind fun _ => (sturdy_spaced (sturdy_oneOf _)).bind fun _ =>
      sturdy_literal.bind fun _ => sturdy_pure _
  exact notNull.orElse (null.orElse (among.orElse (matching.orElse compared)))

theorem sturdy_condition : Sturdy condition := by
  have group : Sturdy group := ((sturdy_word rfl).sepBy1 sturdy_term).bind fun _ => sturdy_pure _
  exact ((sturdy_word rfl).sepBy1 group).bind fun _ => sturdy_pure _

theorem sturdy_whereClause : Sturdy whereClause :=
  (sturdy_word rfl).bind fun _ => sturdy_condition.bind fun _ => sturdy_pure _

/-! ## Definitions of tables -/

theorem sturdy_guard : Sturdy guard :=
  (sturdy_word rfl).bind fun _ => (sturdy_word rfl).bind fun _ => (sturdy_word rfl).bind fun _ =>
    sturdy_pure _

theorem sturdy_typeName : Sturdy typeName := by
  have digits : Sturdy (spaced digits) := sturdy_spaced sturdy_digits
  have length : Sturdy typeLength :=
    sturdy_bracketed (digits.bind fun _ => ((sturdy_sign _).seqRight digits).optional.bind fun _ =>
      sturdy_pure _)
  exact sturdy_name.bind fun _ => length.optional.bind fun _ =>
    (sturdy_word rfl).optional.bind fun _ => sturdy_pure _

theorem sturdy_constraint : Sturdy constraint := by
  have pair {first second : String} (plain : isPlain first = true) (plain' : isPlain second = true)
      (found : Option Tree) : Sturdy (do
        let _ ← word first
        let _ ← word second
        return found) :=
    (sturdy_word plain).bind fun _ => (sturdy_word plain').bind fun _ => sturdy_pure found
  have mark {token : Token} {expected : String} (plain : isPlain expected = true) :
      Sturdy (do return some (← wordNode token expected)) :=
    (sturdy_wordNode plain).bind fun _ => sturdy_pure _
  refine (pair rfl rfl _).orElse ((pair rfl rfl _).orElse ((mark rfl).orElse ?_))
  refine (mark rfl).orElse ((mark rfl).orElse (Sturdy.orElse ?_ ?_))
  · exact (sturdy_word rfl).bind fun _ => sturdy_literal.bind fun _ => sturdy_pure _
  · exact (sturdy_word rfl).seqRight (sturdy_pure none)

theorem sturdy_column : Sturdy column :=
  sturdy_name.bind fun _ => sturdy_typeName.bind fun _ => sturdy_constraint.many.bind fun _ =>
    sturdy_pure _

theorem sturdy_create {token : Token} {expected : String} (plain : isPlain expected = true)
    {named : Scan Tree} (sturdy : Sturdy named) : Sturdy (create token expected named) :=
  (sturdy_word rfl).bind fun _ => (sturdy_word plain).bind fun _ =>
    sturdy_guard.optional.bind fun _ => sturdy.bind fun _ => sturdy_guard.optional.bind fun _ =>
      sturdy_pure _

theorem sturdy_createTable : Sturdy createTable :=
  sturdy_create rfl (sturdy_nameNode.bind fun _ =>
    (sturdy_bracketed (sturdy_listed sturdy_column)).bind fun _ => sturdy_pure _)

theorem sturdy_createDatabase : Sturdy createDatabase :=
  sturdy_create rfl sturdy_nameNode

theorem sturdy_drop : Sturdy drop :=
  (sturdy_word rfl).bind fun _ => ((sturdy_wordNode rfl).orElse (sturdy_wordNode rfl)).bind fun _ =>
    sturdy_nameNode.bind fun _ => sturdy_pure _

theorem sturdy_truncate : Sturdy truncate :=
  (sturdy_word rfl).bind fun _ => (sturdy_word rfl).optional.bind fun _ =>
    sturdy_nameNode.bind fun _ => sturdy_pure _

/-! ## Changes to rows -/

theorem sturdy_insert : Sturdy insert := by
  have named : Sturdy (bracketed (listed nameNode) <|> pure []) :=
    (sturdy_bracketed (sturdy_listed sturdy_nameNode)).orElse (sturdy_pure [])
  have tuple : Sturdy tuple :=
    (sturdy_bracketed (sturdy_listed sturdy_literal)).bind fun _ => sturdy_pure _
  exact (sturdy_word rfl).bind fun _ => (sturdy_word rfl).bind fun _ =>
    sturdy_nameNode.bind fun _ => named.bind fun _ => (sturdy_word rfl).bind fun _ =>
      (sturdy_listed tuple).bind fun _ => sturdy_pure _

theorem sturdy_update : Sturdy update := by
  have change : Sturdy assignment :=
    sturdy_nameNode.bind fun _ => (sturdy_sign _).bind fun _ => sturdy_literal.bind fun _ =>
      sturdy_pure _
  exact (sturdy_word rfl).bind fun _ => sturdy_nameNode.bind fun _ => (sturdy_word rfl).bind fun _ =>
    (sturdy_listed change).bind fun _ => sturdy_whereClause.optional.bind fun _ => sturdy_pure _

theorem sturdy_delete : Sturdy delete :=
  (sturdy_word rfl).bind fun _ => (sturdy_word rfl).bind fun _ => sturdy_nameNode.bind fun _ =>
    sturdy_whereClause.optional.bind fun _ => sturdy_pure _

/-! ## Queries -/

theorem sturdy_projected : Sturdy projected := by
  refine ((sturdy_sign _).seqRight (sturdy_pure _)).orElse (Sturdy.orElse ?_ ?_)
  · exact (sturdy_word rfl).bind fun _ => (sturdy_bracketed (sturdy_sign _)).bind fun _ =>
      sturdy_pure _
  · exact sturdy_listed sturdy_nameNode

theorem sturdy_order : Sturdy order := by
  have direction : Sturdy direction :=
    (sturdy_wordNode rfl).orElse ((sturdy_wordNode rfl).orElse (sturdy_pure _))
  exact (sturdy_word rfl).bind fun _ => (sturdy_word rfl).bind fun _ =>
    sturdy_nameNode.bind fun _ => direction.bind fun _ => sturdy_pure _

theorem sturdy_rowCount {token : Token} {expected : String} (plain : isPlain expected = true) :
    Sturdy (rowCount token expected) :=
  (sturdy_word plain).bind fun _ => (sturdy_spaced sturdy_digits).bind fun _ => sturdy_pure _

theorem sturdy_select : Sturdy select :=
  (sturdy_word rfl).bind fun _ => sturdy_projected.bind fun _ => (sturdy_word rfl).bind fun _ =>
    sturdy_nameNode.bind fun _ => sturdy_whereClause.optional.bind fun _ =>
      sturdy_order.optional.bind fun _ => (sturdy_rowCount rfl).optional.bind fun _ =>
        (sturdy_rowCount rfl).optional.bind fun _ => sturdy_pure _

/-! ## Statements -/

theorem sturdy_control {token : Token} {expected : String} (plain : isPlain expected = true) :
    Sturdy (control token expected) :=
  (sturdy_wordNode plain).bind fun _ => (sturdy_word rfl).optional.bind fun _ => sturdy_pure _

theorem sturdy_begin : Sturdy begin :=
  (sturdy_control rfl).orElse ((sturdy_wordNode rfl).bind fun _ => (sturdy_word rfl).bind fun _ =>
    sturdy_pure _)

theorem sturdy_statement : Sturdy statement := by
  refine sturdy_createTable.orElse (sturdy_createDatabase.orElse (sturdy_drop.orElse ?_))
  refine sturdy_truncate.orElse (sturdy_insert.orElse (sturdy_select.orElse ?_))
  refine sturdy_update.orElse (sturdy_delete.orElse (sturdy_begin.orElse ?_))
  exact (sturdy_control rfl).orElse (sturdy_control rfl)

end Grammar

/-! ## Scripts -/

theorem Text.trim_subset (chars : List Char) : trim chars ⊆ chars := by
  have start (chars : List Char) : trimStart chars ⊆ chars := (List.dropWhile_suffix _).subset
  intro c member
  exact start chars (List.mem_reverse.mp (start _ (List.mem_reverse.mp member)))

namespace Script

open Checked (Raises)

theorem subset_of_mem_pieces {quote : OpenQuote} {chars piece : List Char}
    (member : piece ∈ pieces quote chars) : piece ⊆ chars := by
  induction chars generalizing quote piece with
  | nil =>
      rw [List.mem_singleton.mp member]
      exact List.Subset.refl []
  | cons c rest induction =>
      rw [pieces] at member
      split at member
      · rcases List.mem_cons.mp member with rfl | member
        · exact List.nil_subset _
        · exact List.subset_cons_of_subset c (induction member)
      · split at member
        · rename_i first others cut
          have pieces : ∀ part ∈ first :: others, part ⊆ rest := fun part inside =>
            induction (cut ▸ inside)
          obtain ⟨here, there⟩ := List.forall_mem_cons.mp pieces
          rcases List.mem_cons.mp member with rfl | member
          · exact List.cons_subset_cons c here
          · exact List.subset_cons_of_subset c (there piece member)
        · rw [List.mem_singleton.mp member]
          exact List.cons_subset_cons c (List.nil_subset rest)

theorem clear_of_mem_statements {text : String} (clear : Clear text.toList) {chars : List Char}
    (member : chars ∈ statements text) : Clear chars := by
  obtain ⟨piece, inside, rfl⟩ := List.mem_map.mp (List.mem_filter.mp member).1
  exact clear.mono (List.Subset.trans (Text.trim_subset piece) (subset_of_mem_pieces inside))

/-- The reading of a text without a KELVIN SIGN does not break. -/
theorem breaks_of_clear {text : String} (clear : Clear text.toList) : breaks text = false := by
  have ordinary : Raises (fun error => error.isCrash = false) (parse text) := by
    unfold parse
    split
    · simp [Error.isCrash]
    · rename_i first others cut
      refine Raises.mapM fun chars member => ?_
      have whole := (Grammar.sturdy_statement (clear_of_mem_statements clear (cut ▸ member))).1
      unfold ofTrimmed
      split
      · simp [Error.isCrash]
      · contradiction
      · dsimp only
        split <;> simp [Error.isCrash]
  unfold breaks
  split
  · rfl
  · exact ordinary _ ‹_›

end Script
end SqlEngine
