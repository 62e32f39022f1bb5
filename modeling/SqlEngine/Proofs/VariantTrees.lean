import SqlEngine.Grammar.Statement
import SqlEngine.Proofs.Labels
import SqlEngine.Proofs.Letters
import SqlEngine.Proofs.Variants

/-!
# Variants of statements

The grammar goes through variants of a text in step.  Only strings can contain different texts, so
that the trees differ in these texts alone.
-/

namespace SqlEngine
namespace Grammar

open Scan SqlEngine.Tree Wording

/-! ## Words, names and signs -/

theorem outside_isSpace : OpenQuote.Outside isSpace :=
  OpenQuote.outside rfl rfl rfl

theorem outside_isNameChar : OpenQuote.Outside isNameChar :=
  OpenQuote.outside (by decide) (by decide) (by decide)

theorem outside_isDigit : OpenQuote.Outside Char.isDigit :=
  OpenQuote.outside rfl rfl rfl

theorem verbatim_spaced {α : Type} {item : Scan α} (verbatim : item.Verbatim) :
    (spaced item).Verbatim :=
  (verbatim_span outside_isSpace).bind fun _ => verbatim.bind fun _ =>
    (verbatim_span outside_isSpace).bind fun _ => verbatim_pure _

theorem agree_spaced {α : Type} {related : α → α → Prop} {item : Scan α}
    (agree : Agree related item item) : Agree related (spaced item) (spaced item) :=
  (verbatim_span outside_isSpace).bind_agree fun _ => agree.bind fun _ _ same =>
    (verbatim_span outside_isSpace).bind_agree fun _ => agree_pure same

/-- What agrees with a letter is no quote. -/
theorem unquoted_of_small_eq {letter c : Char} (expects : isLetter letter = true)
    (same : small letter = small c) : OpenQuote.opens c = false := by
  have outside : OpenQuote.Outside fun c => isLetter (small c) := OpenQuote.outside rfl rfl rfl
  exact outside.unquoted (same ▸ isLetter_small expects)

theorem agrees_of_variants {expected : List Char} (plain : ∀ c ∈ expected, isLetter c = true)
    {last : OpenQuote} {left right : List Char} (variants : Variants last none left right) :
    agrees expected left = agrees expected right := by
  induction expected generalizing left right with
  | nil => rfl
  | cons letter expected induction =>
      obtain ⟨expects, plain⟩ := List.forall_mem_cons.mp plain
      rcases variants.next with ⟨rfl, rfl⟩ | ⟨c, left, right, rfl, rfl, others⟩
      · rfl
      refine Bool.eq_iff_iff.mpr ?_
      rw [agrees_cons, agrees_cons]
      refine and_congr_right fun same => ?_
      rw [induction plain (others (unquoted_of_small_eq expects same))]

/-- No more bytes are cut off than there are letters, so that the cut does not come to a quote. -/
theorem bytes_of_variants {expected : List Char} (plain : ∀ c ∈ expected, isLetter c = true)
    {last : OpenQuote} {left right : List Char} (variants : Variants last none left right)
    (agree : agrees expected left = true) {count : Nat} (short : count ≤ expected.length) :
    (bytes count left).StopAlike (bytes count right) ∨
      ∃ front left' right', left = front ++ left' ∧ right = front ++ right' ∧
        bytes count left = .done (front, left') ∧ bytes count right = .done (front, right') ∧
        Variants last none left' right' := by
  induction expected generalizing left right count with
  | nil =>
      obtain rfl := Nat.le_zero.mp short
      exact .inr ⟨[], left, right, rfl, rfl, bytes_zero left, bytes_zero right, variants⟩
  | cons letter expected induction =>
      obtain ⟨expects, plain⟩ := List.forall_mem_cons.mp plain
      cases count with
      | zero => exact .inr ⟨[], left, right, rfl, rfl, bytes_zero left, bytes_zero right, variants⟩
      | succ count =>
          rcases variants.next with ⟨rfl, rfl⟩ | ⟨c, left, right, rfl, rfl, others⟩
          · exact .inl (.inl ⟨rfl, rfl⟩)
          obtain ⟨same, agree⟩ := agrees_cons.mp agree
          rw [bytes, bytes]
          split
          case isFalse => exact .inl (.inr ⟨rfl, rfl⟩)
          have fewer : count + 1 - c.utf8Size ≤ expected.length := by
            have := c.utf8Size_pos
            rw [List.length_cons] at short
            omega
          rcases induction plain (others (unquoted_of_small_eq expects same)) agree fewer with
            (⟨misses, misses'⟩ | ⟨breaks, breaks'⟩) |
              ⟨front, left, right, rfl, rfl, reads, reads', others⟩
          · exact .inl (.inl ⟨by rw [misses, Attempt.miss_bind], by rw [misses', Attempt.miss_bind]⟩)
          · exact .inl (.inr
              ⟨by rw [breaks, Attempt.broken_bind], by rw [breaks', Attempt.broken_bind]⟩)
          · exact .inr ⟨c :: front, left, right, rfl, rfl, by simp [reads], by simp [reads'], others⟩

theorem verbatim_letters {expected : String} (plain : isPlain expected = true) :
    (letters expected).Verbatim := by
  intro last left right variants
  have plain := letters_plain plain
  have length := utf8ByteSize_of_letters plain
  have alike := agrees_of_variants plain variants
  by_cases agree : agrees expected.toList left = true
  · have agree' : agrees expected.toList right = true := alike ▸ agree
    simp only [letters, agree, agree', if_true]
    rcases bytes_of_variants plain variants agree (Nat.le_of_eq length) with
      (⟨misses, misses'⟩ | ⟨breaks, breaks'⟩) |
        ⟨front, left, right, rfl, rfl, reads, reads', others⟩
    · exact .inl (.inl ⟨by rw [misses, Attempt.miss_bind], by rw [misses', Attempt.miss_bind]⟩)
    · exact .inl (.inr ⟨by rw [breaks, Attempt.broken_bind], by rw [breaks', Attempt.broken_bind]⟩)
    · exact .inr ⟨String.ofList front, front, left, right, rfl, rfl, by simp [reads],
        by simp [reads'], others⟩
  · have agree' : ¬ agrees expected.toList right = true := alike ▸ agree
    exact .inl (.inl ⟨if_neg agree, if_neg agree'⟩)

theorem verbatim_word {expected : String} (plain : isPlain expected = true) :
    (word expected).Verbatim :=
  verbatim_spaced ((verbatim_letters plain).bind fun _ =>
    (verbatim_notNext _).bind fun _ => verbatim_pure _)

theorem verbatim_wordNode {token : Token} {expected : String} (plain : isPlain expected = true) :
    (wordNode token expected).Verbatim :=
  (verbatim_word plain).bind fun _ => verbatim_pure _

theorem verbatim_sign {expected : Char} (plain : OpenQuote.opens expected = false) :
    (sign expected).Verbatim :=
  verbatim_spaced (verbatim_char plain)

theorem verbatim_bareName : bareName.Verbatim := by
  unfold bareName
  refine (verbatim_satisfy (OpenQuote.outside rfl rfl rfl)).bind fun _ => ?_
  refine (verbatim_span outside_isNameChar).bind fun _ => ?_
  dsimp only
  split
  · exact verbatim_failure.bind fun _ => verbatim_pure _
  · exact verbatim_pure _

/-- Up to the quote that ends a name, variants are the same. -/
theorem span_of_name {last : OpenQuote} {quote : Char} {left right : List Char}
    (variants : Variants last (some quote) left right) :
    ∃ content left' right', left = content ++ left' ∧ right = content ++ right' ∧
      span (· != quote) left = .done (content, left') ∧
      span (· != quote) right = .done (content, right') ∧
      (left' = [] ∧ right' = [] ∨ ∃ left'' right'', left' = quote :: left'' ∧
        right' = quote :: right'' ∧ Variants last none left'' right'') := by
  induction left generalizing right with
  | nil =>
      obtain rfl := variants.eq_nil_iff.mp rfl
      exact ⟨[], [], [], rfl, rfl, rfl, rfl, .inl ⟨rfl, rfl⟩⟩
  | cons c left induction =>
      cases variants with
      | @same _ _ _ right others =>
          by_cases ends : c = quote
          · subst ends
            simp only [OpenQuote.after, if_true] at others
            exact ⟨[], c :: left, c :: right, rfl, rfl, by simp [span], by simp [span],
              .inr ⟨left, right, rfl, rfl, others⟩⟩
          · simp only [OpenQuote.after, if_neg ends] at others
            obtain ⟨content, left', right', rfl, rfl, reads, reads', rest⟩ := induction others
            refine ⟨c :: content, left', right', rfl, rfl, ?_, ?_, rest⟩
            · simp only [span, Attempt.done.injEq, Prod.mk.injEq] at reads ⊢
              simp [ends, reads]
            · simp only [span, Attempt.done.injEq, Prod.mk.injEq] at reads' ⊢
              simp [ends, reads']

theorem verbatim_nameWithin {quote : Char} (opens : OpenQuote.opens quote = true)
    (other : quote ≠ '\x27') : (nameWithin quote).Verbatim := by
  intro last left right variants
  rcases variants.next with ⟨rfl, rfl⟩ | ⟨c, left, right, rfl, rfl, -⟩
  · exact .inl (.inl ⟨rfl, rfl⟩)
  by_cases begins : c = quote
  · subst begins
    have inside : Variants last (some c) left right := by
      cases variants with
      | same _ others =>
          rwa [OpenQuote.after, if_pos opens] at others
      | string => contradiction
    obtain ⟨content, left, right, rfl, rfl, reads, reads', ending⟩ := span_of_name inside
    have first (rest : List Char) : Scan.char c (c :: rest) = .done ((), rest) :=
      char_eq_done.mpr rfl
    simp only [nameWithin, bind_of_done (first _), bind_of_done reads, bind_of_done reads']
    rcases ending with ⟨rfl, rfl⟩ | ⟨left, right, rfl, rfl, others⟩
    · exact .inl (.inl ⟨rfl, rfl⟩)
    · rw [bind_of_done (first left), bind_of_done (first right)]
      exact .inr ⟨String.ofList content, c :: (content ++ [c]), left, right, by simp, by simp, rfl,
        rfl, others⟩
  · have differs (rest : List Char) : nameWithin quote (c :: rest) = .miss :=
      bind_of_miss (char_of_ne begins rest)
    exact .inl (.inl ⟨differs left, differs right⟩)

theorem verbatim_name : name.Verbatim :=
  verbatim_spaced ((verbatim_nameWithin rfl (by decide)).orElse
    ((verbatim_nameWithin rfl (by decide)).orElse verbatim_bareName))

theorem verbatim_nameNode : nameNode.Verbatim :=
  verbatim_name.bind fun _ => verbatim_pure _

/-! ## Literals -/

theorem verbatim_digits : digits.Verbatim :=
  (verbatim_span1 outside_isDigit).bind fun _ => verbatim_pure _

theorem verbatim_fraction : fraction.Verbatim :=
  (verbatim_char rfl).bind fun _ => (verbatim_span1 outside_isDigit).bind fun _ =>
    verbatim_pure _

theorem verbatim_number : number.Verbatim :=
  (((verbatim_char rfl).seqRight (verbatim_pure _)).orElse (verbatim_pure _)).bind fun _ =>
    (verbatim_span1 outside_isDigit).bind fun _ =>
      (verbatim_fraction.orElse (verbatim_pure _)).bind fun _ => verbatim_pure _

theorem verbatim_currentTime : currentTime.Verbatim :=
  (((verbatim_letters rfl).seqRight (verbatim_sign rfl)).seqRight
    (verbatim_char rfl)).consumed.orElse (verbatim_letters rfl)

theorem verbatim_bracketed {α : Type} {item : Scan α} (verbatim : item.Verbatim) :
    (bracketed item).Verbatim :=
  (verbatim_sign rfl).bind fun _ => verbatim.bind fun _ =>
    (verbatim_sign rfl).bind fun _ => verbatim_pure _

theorem agree_bracketed {α : Type} {related : α → α → Prop} {item : Scan α}
    (agree : Agree related item item) : Agree related (bracketed item) (bracketed item) :=
  (verbatim_sign rfl).bind_agree fun _ => agree.bind fun _ _ same =>
    (verbatim_sign rfl).bind_agree fun _ => agree_pure same

theorem agree_listed {α : Type} {related : α → α → Prop} {item : Scan α}
    (agree : Agree related item item) :
    Agree (List.Forall₂ related) (listed item) (listed item) :=
  agree.sepBy1 (verbatim_sign rfl)

theorem agree_optional {α : Type} {related : α → α → Prop} {item : Scan α}
    (agree : Agree related item item) :
    Agree (Option.Rel related) (optional item) (optional item) :=
  (agree.bind fun _ _ same => agree_pure (.some same)).orElse (agree_pure .none)

theorem agree_stringLiteral : Agree (fun _ _ => True) stringLiteral stringLiteral := by
  intro last left right variants
  rcases variants.next with ⟨rfl, rfl⟩ | ⟨c, left, right, rfl, rfl, -⟩
  · exact .inl (.inl ⟨rfl, rfl⟩)
  by_cases begins : c = '\x27'
  · subst begins
    have first (rest : List Char) : Scan.char '\x27' ('\x27' :: rest) = .done ((), rest) :=
      char_eq_done.mpr rfl
    have close : Close last left right := by
      cases variants with
      | same _ others => exact (close_of_variants others).1 rfl
      | string content content' others =>
          exact ((close_of_variants others).2 rfl).of_content content content'
    simp only [stringLiteral, bind_of_done (first _)]
    rcases close with ⟨opened, opened'⟩ |
      ⟨content, content', left', right', closed, closed', others, shorter, shorter'⟩
    · exact .inl (.inl ⟨by simp [bind_apply, opened], by simp [bind_apply, opened']⟩)
    · simp only [bind_apply, closed, closed', Attempt.ofOption_some, Attempt.done_bind]
      refine .inr ⟨_, _, left', right', rfl, rfl, trivial, others, .inr ⟨?_, ?_⟩⟩
      · exact Nat.lt_succ_of_lt shorter
      · exact Nat.lt_succ_of_lt shorter'
  · have differs (rest : List Char) : stringLiteral (c :: rest) = .miss :=
      bind_of_miss (char_of_ne begins rest)
    exact .inl (.inl ⟨differs left, differs right⟩)

/-- A scanner that reads no string gives the same tree. -/
private theorem agree_of_verbatim {item : Scan Tree} (verbatim : item.Verbatim) :
    Agree SameButStrings item item :=
  verbatim.agree fun _ => rfl

theorem agree_literal : Agree SameButStrings literal literal := by
  refine agree_spaced ?_
  refine (agree_of_verbatim (verbatim_wordNode rfl)).orElse ?_
  refine (agree_of_verbatim (verbatim_wordNode rfl)).orElse ?_
  refine (agree_of_verbatim (verbatim_wordNode rfl)).orElse ?_
  refine (agree_of_verbatim (verbatim_currentTime.bind fun _ => verbatim_pure _)).orElse ?_
  refine (agree_stringLiteral.bind fun _ _ _ => agree_pure ?_).orElse ?_
  · simp [SameButStrings]
  · exact agree_of_verbatim (verbatim_number.bind fun _ => verbatim_pure _)

/-! ## Conditions -/

theorem verbatim_oneOf {signs : List (String × Token)}
    (plain : ∀ entry ∈ signs, (entry.1.toList.all fun letter => !OpenQuote.opens letter) = true) :
    (oneOf signs).Verbatim := by
  induction signs with
  | nil => exact verbatim_failure
  | cons entry signs induction =>
      obtain ⟨first, others⟩ := List.forall_mem_cons.mp plain
      exact ((verbatim_exactly first).seqRight (verbatim_pure _)).orElse (induction others)

theorem verbatim_isNotNull : isNotNull.Verbatim :=
  verbatim_nameNode.bind fun _ => (verbatim_word rfl).bind fun _ =>
    (verbatim_word rfl).bind fun _ => (verbatim_word rfl).bind fun _ => verbatim_pure _

theorem verbatim_isNull : isNull.Verbatim :=
  verbatim_nameNode.bind fun _ => (verbatim_word rfl).bind fun _ =>
    (verbatim_word rfl).bind fun _ => verbatim_pure _

theorem agree_inList : Agree SameButStrings inList inList := by
  refine verbatim_nameNode.bind_agree fun column => (verbatim_word rfl).bind_agree fun lexeme => ?_
  refine (agree_bracketed (agree_listed agree_literal)).bind fun values values' same => ?_
  refine agree_pure ?_
  simp [SameButStrings, map_withoutStrings same]

theorem agree_like : Agree SameButStrings like like := by
  refine verbatim_nameNode.bind_agree fun column => (verbatim_word rfl).bind_agree fun lexeme => ?_
  refine agree_literal.bind fun pattern pattern' same => agree_pure ?_
  simp [SameButStrings, same.eq]

theorem agree_comparison : Agree SameButStrings comparison comparison := by
  refine verbatim_nameNode.bind_agree fun column => ?_
  refine (verbatim_spaced (verbatim_oneOf (by decide))).bind_agree fun found => ?_
  refine agree_literal.bind fun value value' same => agree_pure ?_
  simp [SameButStrings, same.eq]

theorem agree_term : Agree SameButStrings term term :=
  (agree_of_verbatim verbatim_isNotNull).orElse ((agree_of_verbatim verbatim_isNull).orElse
    (agree_inList.orElse (agree_like.orElse agree_comparison)))

theorem sameButStrings_joined {token : Token} {lexeme : String} {lefts rights : List Tree}
    (same : List.Forall₂ SameButStrings lefts rights) :
    SameButStrings (joined token lexeme lefts) (joined token lexeme rights) := by
  cases same with
  | nil => rfl
  | cons first others =>
      cases others with
      | nil => exact first
      | cons second others =>
          simp [joined, SameButStrings, first.eq, second.eq, map_withoutStrings others]

theorem agree_group : Agree SameButStrings group group :=
  (agree_term.sepBy1 (verbatim_word rfl)).bind fun _ _ same =>
    agree_pure (sameButStrings_joined same)

theorem agree_condition : Agree SameButStrings condition condition :=
  (agree_group.sepBy1 (verbatim_word rfl)).bind fun _ _ same =>
    agree_pure (sameButStrings_joined same)

theorem agree_whereClause : Agree SameButStrings whereClause whereClause := by
  refine (verbatim_word rfl).bind_agree fun lexeme => agree_condition.bind fun _ _ same => ?_
  exact agree_pure (by simp [SameButStrings, same.eq])

/-! ## Definitions of tables -/

theorem verbatim_guard : guard.Verbatim :=
  (verbatim_word rfl).bind fun _ => (verbatim_word rfl).bind fun _ =>
    (verbatim_word rfl).bind fun _ => verbatim_pure _

theorem verbatim_optional {α : Type} {item : Scan α} (verbatim : item.Verbatim) :
    (optional item).Verbatim :=
  (verbatim.bind fun _ => verbatim_pure _).orElse (verbatim_pure _)

theorem verbatim_typeLength : typeLength.Verbatim := by
  refine verbatim_bracketed ((verbatim_spaced verbatim_digits).bind fun _ => ?_)
  refine Verbatim.bind ?_ fun _ => verbatim_pure _
  exact verbatim_optional ((verbatim_sign rfl).seqRight (verbatim_spaced verbatim_digits))

theorem verbatim_typeName : typeName.Verbatim :=
  verbatim_name.bind fun _ => (verbatim_optional verbatim_typeLength).bind fun _ =>
    (verbatim_optional (verbatim_word rfl)).bind fun _ => verbatim_pure _

theorem agree_constraint : Agree (Option.Rel SameButStrings) constraint constraint := by
  have alone {item : Scan (Option Tree)} (verbatim : item.Verbatim) :
      Agree (Option.Rel SameButStrings) item item := by
    refine verbatim.agree fun value => ?_
    cases value with
    | none => exact .none
    | some tree => exact .some rfl
  have one {token : Token} {expected : String} (verbatim : (wordNode token expected).Verbatim) :
      (do return some (← wordNode token expected) : Scan (Option Tree)).Verbatim :=
    verbatim.bind fun _ => verbatim_pure _
  have two {first second : String} {tree : Tree} (verbatim : (word first).Verbatim)
      (verbatim' : (word second).Verbatim) :
      (do
        let _ ← word first
        let _ ← word second
        return some tree : Scan (Option Tree)).Verbatim :=
    verbatim.bind fun _ => verbatim'.bind fun _ => verbatim_pure _
  refine (alone (two (verbatim_word rfl) (verbatim_word rfl))).orElse ?_
  refine (alone (two (verbatim_word rfl) (verbatim_word rfl))).orElse ?_
  refine (alone (one (verbatim_wordNode rfl))).orElse ?_
  refine (alone (one (verbatim_wordNode rfl))).orElse ?_
  refine (alone (one (verbatim_wordNode rfl))).orElse ?_
  refine Agree.orElse ?_ (alone ((verbatim_word rfl).seqRight (verbatim_pure _)))
  refine (verbatim_word rfl).bind_agree fun _ => agree_literal.bind fun _ _ same => ?_
  exact agree_pure (.some (by simp [SameButStrings, same.eq]))

private theorem forall₂_filterMap {lefts rights : List (Option Tree)}
    (same : List.Forall₂ (Option.Rel SameButStrings) lefts rights) :
    List.Forall₂ SameButStrings (lefts.filterMap id) (rights.filterMap id) := by
  induction same with
  | nil => exact .nil
  | cons first _ induction =>
      cases first with
      | none => exact induction
      | some first => exact .cons first induction

theorem agree_column : Agree SameButStrings column column := by
  refine verbatim_name.bind_agree fun name => verbatim_typeName.bind_agree fun type => ?_
  refine agree_constraint.many.bind fun constraints constraints' same => agree_pure ?_
  simp only [SameButStrings, withoutStrings_mk, List.map_cons,
    map_withoutStrings (forall₂_filterMap same)]

theorem agree_create {token : Token} {expected : String} {named : Scan Tree}
    (verbatim : (word expected).Verbatim) (agree : Agree SameButStrings named named) :
    Agree SameButStrings (create token expected named) (create token expected named) := by
  refine (verbatim_word rfl).bind_agree fun _ => verbatim.bind_agree fun lexeme => ?_
  refine (verbatim_optional verbatim_guard).bind_agree fun before => ?_
  refine agree.bind fun name name' same => ?_
  refine (verbatim_optional verbatim_guard).bind_agree fun behind => agree_pure ?_
  simp [SameButStrings, same.eq]

theorem agree_createTable : Agree SameButStrings createTable createTable := by
  refine agree_create (verbatim_word rfl) (verbatim_nameNode.bind_agree fun name => ?_)
  refine (agree_bracketed (agree_listed agree_column)).bind fun _ _ same => agree_pure ?_
  simp [SameButStrings, map_withoutStrings same]

theorem agree_createDatabase : Agree SameButStrings createDatabase createDatabase :=
  agree_create (verbatim_word rfl) (agree_of_verbatim verbatim_nameNode)

theorem verbatim_drop : drop.Verbatim :=
  (verbatim_word rfl).bind fun _ =>
    ((verbatim_wordNode rfl).orElse (verbatim_wordNode rfl)).bind fun _ =>
      verbatim_nameNode.bind fun _ => verbatim_pure _

theorem verbatim_truncate : truncate.Verbatim :=
  (verbatim_word rfl).bind fun _ => (verbatim_optional (verbatim_word rfl)).bind fun _ =>
    verbatim_nameNode.bind fun _ => verbatim_pure _

/-! ## Changes to rows -/

theorem agree_tuple : Agree SameButStrings tuple tuple := by
  refine (agree_bracketed (agree_listed agree_literal)).bind fun _ _ same => agree_pure ?_
  simp [SameButStrings, map_withoutStrings same]

theorem agree_insert : Agree SameButStrings insert insert := by
  refine (verbatim_word rfl).bind_agree fun _ => (verbatim_word rfl).bind_agree fun intoLexeme => ?_
  refine verbatim_nameNode.bind_agree fun table => ?_
  have columns := agree_bracketed (agree_listed (agree_of_verbatim verbatim_nameNode))
  refine (columns.orElse (agree_pure .nil)).bind fun columns columns' same => ?_
  refine (verbatim_word rfl).bind_agree fun valuesLexeme => ?_
  refine (agree_listed agree_tuple).bind fun tuples tuples' same' => agree_pure ?_
  simp [SameButStrings, map_withoutStrings same, map_withoutStrings same']

theorem agree_assignment : Agree SameButStrings assignment assignment := by
  refine verbatim_nameNode.bind_agree fun column => (verbatim_sign rfl).bind_agree fun _ => ?_
  refine agree_literal.bind fun value value' same => agree_pure ?_
  simp [SameButStrings, same.eq]

theorem agree_update : Agree SameButStrings update update := by
  refine (verbatim_word rfl).bind_agree fun _ => verbatim_nameNode.bind_agree fun table => ?_
  refine (verbatim_word rfl).bind_agree fun setLexeme => ?_
  refine (agree_listed agree_assignment).bind fun changes changes' same => ?_
  refine (agree_optional agree_whereClause).bind fun filter filter' same' => agree_pure ?_
  simp [SameButStrings, map_withoutStrings same, toList_withoutStrings same']

theorem agree_delete : Agree SameButStrings delete delete := by
  refine (verbatim_word rfl).bind_agree fun _ => (verbatim_word rfl).bind_agree fun fromLexeme => ?_
  refine verbatim_nameNode.bind_agree fun table => ?_
  refine (agree_optional agree_whereClause).bind fun filter filter' same => agree_pure ?_
  simp [SameButStrings, toList_withoutStrings same]

/-! ## Queries -/

theorem agree_projected : Agree (List.Forall₂ SameButStrings) projected projected := by
  have alone {item : Scan (List Tree)} (verbatim : item.Verbatim) :
      Agree (List.Forall₂ SameButStrings) item item :=
    verbatim.agree fun trees => List.forall₂_same.mpr fun _ _ => rfl
  refine (alone ((verbatim_sign rfl).seqRight (verbatim_pure _))).orElse (Agree.orElse ?_ ?_)
  · exact alone ((verbatim_word rfl).bind fun _ =>
      (verbatim_bracketed (verbatim_sign rfl)).bind fun _ => verbatim_pure _)
  · exact agree_listed (agree_of_verbatim verbatim_nameNode)

theorem verbatim_direction : direction.Verbatim :=
  (verbatim_wordNode rfl).orElse ((verbatim_wordNode rfl).orElse (verbatim_pure _))

theorem verbatim_order : order.Verbatim :=
  (verbatim_word rfl).bind fun _ => (verbatim_word rfl).bind fun _ =>
    verbatim_nameNode.bind fun _ => verbatim_direction.bind fun _ => verbatim_pure _

theorem verbatim_rowCount {token : Token} {expected : String}
    (verbatim : (word expected).Verbatim) : (rowCount token expected).Verbatim :=
  verbatim.bind fun _ => (verbatim_spaced verbatim_digits).bind fun _ => verbatim_pure _

theorem agree_select : Agree SameButStrings select select := by
  refine (verbatim_word rfl).bind_agree fun _ => ?_
  refine agree_projected.bind fun columns columns' same => ?_
  refine (verbatim_word rfl).bind_agree fun fromLexeme => ?_
  refine verbatim_nameNode.bind_agree fun table => ?_
  refine (agree_optional agree_whereClause).bind fun filter filter' same' => ?_
  refine (verbatim_optional verbatim_order).bind_agree fun order => ?_
  refine (verbatim_optional (verbatim_rowCount (verbatim_word rfl))).bind_agree fun limit => ?_
  refine (verbatim_optional (verbatim_rowCount (verbatim_word rfl))).bind_agree fun offset => ?_
  refine agree_pure ?_
  simp [SameButStrings, map_withoutStrings same, toList_withoutStrings same']

/-! ## Statements -/

theorem verbatim_control {token : Token} {expected : String}
    (verbatim : (wordNode token expected).Verbatim) : (control token expected).Verbatim :=
  verbatim.bind fun _ => (verbatim_optional (verbatim_word rfl)).bind fun _ => verbatim_pure _

theorem verbatim_begin : begin.Verbatim :=
  (verbatim_control (verbatim_wordNode rfl)).orElse
    ((verbatim_wordNode rfl).bind fun _ => (verbatim_word rfl).bind fun _ => verbatim_pure _)

theorem agree_statement : Agree SameButStrings statement statement := by
  refine agree_createTable.orElse (agree_createDatabase.orElse ?_)
  refine (agree_of_verbatim verbatim_drop).orElse ((agree_of_verbatim verbatim_truncate).orElse ?_)
  refine agree_insert.orElse (agree_select.orElse (agree_update.orElse (agree_delete.orElse ?_)))
  refine (agree_of_verbatim verbatim_begin).orElse ?_
  exact (agree_of_verbatim (verbatim_control (verbatim_wordNode rfl))).orElse
    (agree_of_verbatim (verbatim_control (verbatim_wordNode rfl)))

end Grammar
end SqlEngine
