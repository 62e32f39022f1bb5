import SqlEngine.Proofs.Scanning
import SqlEngine.Proofs.Strings
import SqlEngine.Statement.Quote

/-!
# Variants of a text

Two texts are variants when they differ only in what their strings contain.  A scanner that starts
outside quotes stops outside quotes, so that it goes through two variants in step: it misses on both,
it breaks on both, or it leaves variants again.  Only what it reads from a string can differ.
-/

namespace SqlEngine

namespace OpenQuote

/-- Whether no quote passes a test. -/
def Outside (test : Char → Bool) : Prop :=
  ∀ c, opens c = true → test c = false

theorem outside {test : Char → Bool} (single : test '\x27' = false) (double : test '\x22' = false)
    (back : test '\x60' = false) : Outside test := by
  intro c quote
  simp only [opens, Bool.or_eq_true, beq_iff_eq] at quote
  rcases quote with (rfl | rfl) | rfl
  · exact single
  · exact double
  · exact back

theorem Outside.unquoted {test : Char → Bool} (outside : Outside test) {c : Char}
    (passes : test c = true) : opens c = false := by
  by_contra quote
  rw [outside c (Bool.of_not_eq_false quote)] at passes
  contradiction

end OpenQuote

/-- Texts that differ only in what some of their strings contain.  The second quote is the one that
is open in front of them, the first the one that is open behind them. -/
inductive Variants (last : OpenQuote) : OpenQuote → List Char → List Char → Prop where
  /-- Nothing is left of both. -/
  | done : Variants last last [] []
  /-- The next character is the same. -/
  | same (c : Char) {quote : OpenQuote} {left right : List Char}
      (others : Variants last (quote.after c) left right) :
      Variants last quote (c :: left) (c :: right)
  /-- Next are two strings. -/
  | string (first second : List Char) {left right : List Char}
      (others : Variants last none left right) :
      Variants last none ('\x27' :: (Text.doubleQuotes first ++ '\x27' :: left))
        ('\x27' :: (Text.doubleQuotes second ++ '\x27' :: right))

namespace Variants

variable {last quote : OpenQuote} {left right : List Char}

theorem eq_nil_iff (variants : Variants last quote left right) : left = [] ↔ right = [] := by
  cases variants <;> simp

theorem of_plain {c : Char} (plain : OpenQuote.opens c = false)
    (others : Variants last none left right) : Variants last none (c :: left) (c :: right) := by
  refine same c ?_
  rwa [OpenQuote.after, plain]

/-- Outside quotes, variants have the same next character; if it opens no quote, what follows it are
variants. -/
theorem next (variants : Variants last none left right) :
    left = [] ∧ right = [] ∨ ∃ c left' right', left = c :: left' ∧ right = c :: right' ∧
      (OpenQuote.opens c = false → Variants last none left' right') := by
  cases variants with
  | done => exact .inl ⟨rfl, rfl⟩
  | same c others =>
      refine .inr ⟨c, _, _, rfl, rfl, fun plain => ?_⟩
      rwa [OpenQuote.after, plain] at others
  | string first second others =>
      refine .inr ⟨'\x27', _, _, rfl, rfl, fun plain => ?_⟩
      exact absurd plain (by decide)

end Variants

/-- Whether two attempts end alike without a value. -/
def Attempt.StopAlike {α β : Type} (first : Attempt α) (second : Attempt β) : Prop :=
  first = .miss ∧ second = .miss ∨ first = .broken ∧ second = .broken

namespace Scan

variable {α β γ δ : Type}

theorem stopAlike_bind {first : Scan α} {second : Scan β} {next : α → Scan γ} {next' : β → Scan δ}
    {left right : List Char} (stops : (first left).StopAlike (second right)) :
    ((first >>= next) left).StopAlike ((second >>= next') right) := by
  rcases stops with ⟨misses, misses'⟩ | ⟨breaks, breaks'⟩
  · exact .inl ⟨bind_of_miss misses, bind_of_miss misses'⟩
  · exact .inr ⟨bind_of_broken breaks, bind_of_broken breaks'⟩

/-! ## Scanners that read no string -/

/-- Whether a scanner reads the same characters from two variants, and so never a part of a string.
-/
def Verbatim (item : Scan α) : Prop :=
  ∀ ⦃last left right⦄, Variants last none left right →
    (item left).StopAlike (item right) ∨
      ∃ value front left' right', left = front ++ left' ∧ right = front ++ right' ∧
        item left = .done (value, left') ∧ item right = .done (value, right') ∧
        Variants last none left' right'

theorem verbatim_pure (value : α) : Verbatim (pure value : Scan α) := fun _ left right variants =>
  .inr ⟨value, [], left, right, rfl, rfl, rfl, rfl, variants⟩

theorem verbatim_failure : Verbatim (failure : Scan α) := fun _ _ _ _ =>
  .inl (.inl ⟨rfl, rfl⟩)

theorem Verbatim.bind {item : Scan α} {next : α → Scan β} (first : item.Verbatim)
    (second : ∀ value, (next value).Verbatim) : (item >>= next).Verbatim := by
  intro last left right variants
  rcases first variants with stops |
    ⟨value, front, left, right, rfl, rfl, reads, reads', others⟩
  · exact .inl (stopAlike_bind stops)
  · rw [bind_of_done reads, bind_of_done reads']
    rcases second value others with stops | ⟨result, more, left, right, rfl, rfl, reads⟩
    · exact .inl stops
    · exact .inr ⟨result, front ++ more, left, right, (List.append_assoc ..).symm,
        (List.append_assoc ..).symm, reads⟩

theorem Verbatim.seqRight {item : Scan α} {next : Scan β} (first : item.Verbatim)
    (second : next.Verbatim) : (item *> next).Verbatim :=
  first.bind fun _ => second

theorem Verbatim.orElse {first second : Scan α} (here : first.Verbatim) (there : second.Verbatim) :
    (first <|> second).Verbatim := by
  intro last left right variants
  rcases here variants with (⟨misses, misses'⟩ | ⟨breaks, breaks'⟩) |
    ⟨value, front, left, right, split, split', reads, reads', others⟩
  · rw [orElse_of_miss misses, orElse_of_miss misses']
    exact there variants
  · exact .inl (.inr ⟨orElse_of_broken breaks, orElse_of_broken breaks'⟩)
  · rw [orElse_of_done reads, orElse_of_done reads']
    exact .inr ⟨value, front, left, right, split, split', rfl, rfl, others⟩

/-- The text that a scanner reads is the same in both variants. -/
theorem Verbatim.consumed {item : Scan α} (verbatim : item.Verbatim) : item.consumed.Verbatim := by
  intro last left right variants
  rcases verbatim variants with (⟨misses, misses'⟩ | ⟨breaks, breaks'⟩) |
    ⟨value, front, left, right, rfl, rfl, reads, reads', others⟩
  · exact .inl (.inl ⟨by simp [Scan.consumed, misses], by simp [Scan.consumed, misses']⟩)
  · exact .inl (.inr ⟨by simp [Scan.consumed, breaks], by simp [Scan.consumed, breaks']⟩)
  · exact .inr ⟨String.ofList front, front, left, right, rfl, rfl,
      by simp [Scan.consumed, reads], by simp [Scan.consumed, reads'], others⟩

theorem verbatim_satisfy {test : Char → Bool}
    (plain : OpenQuote.Outside test) : (satisfy test).Verbatim := by
  intro last left right variants
  rcases variants.next with ⟨rfl, rfl⟩ | ⟨c, left, right, rfl, rfl, others⟩
  · exact .inl (.inl ⟨rfl, rfl⟩)
  · by_cases passes : test c = true
    · exact .inr ⟨c, [c], left, right, rfl, rfl, satisfy_eq_done.mpr ⟨rfl, passes⟩,
        satisfy_eq_done.mpr ⟨rfl, passes⟩, others (plain.unquoted passes)⟩
    · exact .inl (.inl ⟨by simp [satisfy, passes], by simp [satisfy, passes]⟩)

theorem verbatim_char {expected : Char} (plain : OpenQuote.opens expected = false) :
    (char expected).Verbatim := by
  refine (verbatim_satisfy fun c quote => ?_).bind fun _ => verbatim_pure ()
  refine beq_eq_false_iff_ne.mpr ?_
  rintro rfl
  rw [plain] at quote
  contradiction

theorem verbatim_span {test : Char → Bool}
    (plain : OpenQuote.Outside test) : (span test).Verbatim := by
  intro last left right variants
  refine .inr ?_
  induction left generalizing right with
  | nil =>
      obtain rfl := variants.eq_nil_iff.mp rfl
      exact ⟨[], [], [], [], rfl, rfl, rfl, rfl, variants⟩
  | cons c left induction =>
      rcases variants.next with ⟨contra, -⟩ | ⟨d, left, right, split, rfl, others⟩
      · contradiction
      · obtain ⟨rfl, rfl⟩ := List.cons.inj split
        by_cases passes : test c = true
        · obtain ⟨value, front, left', right', rfl, rfl, reads, reads', rest⟩ :=
            induction (others (plain.unquoted passes))
          refine ⟨c :: value, c :: front, left', right', rfl, rfl, ?_, ?_, rest⟩
          · simp only [span, Attempt.done.injEq, Prod.mk.injEq] at reads ⊢
            simp [passes, reads]
          · simp only [span, Attempt.done.injEq, Prod.mk.injEq] at reads' ⊢
            simp [passes, reads']
        · exact ⟨[], [], _, _, rfl, rfl, by simp [span, passes], by simp [span, passes], variants⟩

theorem verbatim_span1 {test : Char → Bool}
    (plain : OpenQuote.Outside test) : (span1 test).Verbatim :=
  (verbatim_satisfy plain).bind fun _ => (verbatim_span plain).bind fun _ => verbatim_pure _

theorem verbatim_notNext (test : Char → Bool) : (notNext test).Verbatim := by
  intro last left right variants
  rcases variants.next with ⟨rfl, rfl⟩ | ⟨c, left, right, rfl, rfl, -⟩
  · exact .inr ⟨(), [], [], [], rfl, rfl, rfl, rfl, variants⟩
  · by_cases passes : test c = true
    · exact .inl (.inl ⟨by simp [notNext, passes], by simp [notNext, passes]⟩)
    · exact .inr ⟨(), [], _, _, rfl, rfl, by simp [notNext, passes], by simp [notNext, passes],
        variants⟩

/-- A fixed text without quotes is stripped off both variants. -/
theorem strip?_of_variants {same : Char → Char → Bool} {expected : List Char}
    (plain : ∀ letter ∈ expected, OpenQuote.Outside (same letter))
    {last : OpenQuote} {left right : List Char} (variants : Variants last none left right) :
    strip? same expected left = none ∧ strip? same expected right = none ∨
      ∃ front left' right', left = front ++ left' ∧ right = front ++ right' ∧
        front.length = expected.length ∧ strip? same expected left = some left' ∧
        strip? same expected right = some right' ∧ Variants last none left' right' := by
  induction expected generalizing left right with
  | nil => exact .inr ⟨[], left, right, rfl, rfl, rfl, rfl, rfl, variants⟩
  | cons letter expected induction =>
      obtain ⟨first, others⟩ := List.forall_mem_cons.mp plain
      rcases variants.next with ⟨rfl, rfl⟩ | ⟨c, left, right, rfl, rfl, rest⟩
      · exact .inl ⟨rfl, rfl⟩
      · simp only [strip?]
        by_cases agrees : same letter c = true
        · simp only [agrees, if_true]
          rcases induction others (rest (first.unquoted agrees)) with fails |
            ⟨front, left, right, rfl, rfl, length, stripped⟩
          · exact .inl fails
          · exact .inr ⟨c :: front, left, right, rfl, rfl, by simp [length], stripped⟩
        · simp only [agrees]
          exact .inl ⟨rfl, rfl⟩

theorem verbatim_exactly {text : String}
    (plain : (text.toList.all fun letter => !OpenQuote.opens letter) = true) :
    (exactly text).Verbatim := by
  intro last left right variants
  have differ : ∀ letter ∈ text.toList, OpenQuote.Outside (letter == ·) := by
    intro letter member c quote
    refine beq_eq_false_iff_ne.mpr ?_
    rintro rfl
    have unquoted := List.all_eq_true.mp plain letter member
    rw [quote] at unquoted
    contradiction
  rcases strip?_of_variants differ variants with ⟨fails, fails'⟩ |
    ⟨front, left, right, rfl, rfl, -, stripped, stripped', others⟩
  · exact .inl (.inl ⟨by rw [exactly, fails]; rfl, by rw [exactly, fails']; rfl⟩)
  · exact .inr ⟨(), front, left, right, rfl, rfl, by rw [exactly, stripped]; rfl,
      by rw [exactly, stripped']; rfl, others⟩

/-! ## Scanners that may read strings -/

/-- Whether two scanners go through variants in step and give values in a relation.  They must agree
on whether they read anything, as a repetition ends where nothing is read. -/
def Agree (related : α → β → Prop) (first : Scan α) (second : Scan β) : Prop :=
  ∀ ⦃last left right⦄, Variants last none left right →
    (first left).StopAlike (second right) ∨
      ∃ value value' left' right', first left = .done (value, left') ∧
        second right = .done (value', right') ∧ related value value' ∧
        Variants last none left' right' ∧
        (left' = left ∧ right' = right ∨
          left'.length < left.length ∧ right'.length < right.length)

variable {related : α → α → Prop} {related' : β → β → Prop}

theorem Verbatim.agree {item : Scan α} (verbatim : item.Verbatim)
    (reflexive : ∀ value, related value value) : Agree related item item := by
  intro last left right variants
  rcases verbatim variants with stops | ⟨value, front, left, right, rfl, rfl, reads, reads', others⟩
  · exact .inl stops
  · refine .inr ⟨value, value, left, right, reads, reads', reflexive value, others, ?_⟩
    cases front with
    | nil => exact .inl ⟨rfl, rfl⟩
    | cons c front =>
        simp only [List.length_append, List.length_cons]
        exact .inr ⟨by omega, by omega⟩

theorem agree_pure {value value' : α} (same : related value value') :
    Agree related (pure value) (pure value') := fun _ left right variants =>
  .inr ⟨value, value', left, right, rfl, rfl, same, variants, .inl ⟨rfl, rfl⟩⟩

theorem Agree.bind {first second : Scan α} {next next' : α → Scan β}
    (here : Agree related first second)
    (there : ∀ value value', related value value' → Agree related' (next value) (next' value')) :
    Agree related' (first >>= next) (second >>= next') := by
  intro last left right variants
  rcases here variants with stops |
    ⟨value, value', rest, rest', reads, reads', same, others, moved⟩
  · exact .inl (stopAlike_bind stops)
  · rw [bind_of_done reads, bind_of_done reads']
    rcases there value value' same others with stops |
      ⟨result, result', final, final', reads, reads', same, others, moved'⟩
    · exact .inl stops
    · refine .inr ⟨result, result', final, final', reads, reads', same, others, ?_⟩
      rcases moved with ⟨rfl, rfl⟩ | ⟨shorter, shorter'⟩
      · exact moved'
      · rcases moved' with ⟨rfl, rfl⟩ | ⟨further, further'⟩
        · exact .inr ⟨shorter, shorter'⟩
        · exact .inr ⟨Nat.lt_trans further shorter, Nat.lt_trans further' shorter'⟩

theorem Verbatim.bind_agree {item : Scan α} {next next' : α → Scan β} (first : item.Verbatim)
    (second : ∀ value, Agree related' (next value) (next' value)) :
    Agree related' (item >>= next) (item >>= next') := by
  refine (first.agree fun _ => rfl).bind ?_
  rintro value _ rfl
  exact second value

theorem Agree.seqRight {item : Scan α} {first second : Scan β} (here : item.Verbatim)
    (there : Agree related' first second) : Agree related' (item *> first) (item *> second) :=
  here.bind_agree fun _ => there

theorem Agree.orElse {first second first' second' : Scan α} (here : Agree related first second)
    (there : Agree related first' second') :
    Agree related (first <|> first') (second <|> second') := by
  intro last left right variants
  rcases here variants with (⟨misses, misses'⟩ | ⟨breaks, breaks'⟩) |
    ⟨value, value', rest, rest', reads, reads', same, others, moved⟩
  · rw [orElse_of_miss misses, orElse_of_miss misses']
    exact there variants
  · exact .inl (.inr ⟨orElse_of_broken breaks, orElse_of_broken breaks'⟩)
  · rw [orElse_of_done reads, orElse_of_done reads']
    exact .inr ⟨value, value', rest, rest', rfl, rfl, same, others, moved⟩

theorem Agree.many {first second : Scan α} (agree : Agree related first second) :
    Agree (List.Forall₂ related) first.many second.many := by
  intro last left right variants
  induction size : left.length using Nat.strongRecOn generalizing left right with
  | _ size induction =>
      subst size
      rw [many.eq_def first, many.eq_def second]
      rcases agree variants with (⟨misses, misses'⟩ | ⟨breaks, breaks'⟩) |
        ⟨value, value', rest, rest', reads, reads', same, others, moved⟩
      · rw [misses, misses']
        exact .inr ⟨[], [], left, right, rfl, rfl, .nil, variants, .inl ⟨rfl, rfl⟩⟩
      · rw [breaks, breaks']
        exact .inl (.inr ⟨rfl, rfl⟩)
      · rw [reads, reads']
        rcases moved with ⟨rfl, rfl⟩ | ⟨shorter, shorter'⟩
        · simp only [Nat.lt_irrefl, if_false]
          exact .inr ⟨[], [], rest, rest', rfl, rfl, .nil, variants, .inl ⟨rfl, rfl⟩⟩
        · simp only [shorter, shorter', if_true]
          rcases induction rest.length shorter others rfl with (⟨misses, misses'⟩ | ⟨breaks, breaks'⟩) |
            ⟨values, values', final, final', read, read', all, variants, moved⟩
          · rw [misses, misses']
            exact .inl (.inl ⟨rfl, rfl⟩)
          · rw [breaks, breaks']
            exact .inl (.inr ⟨rfl, rfl⟩)
          rw [read, read']
          refine .inr ⟨value :: values, value' :: values', final, final', rfl, rfl, .cons same all,
            variants, .inr ?_⟩
          rcases moved with ⟨rfl, rfl⟩ | ⟨further, further'⟩
          · exact ⟨shorter, shorter'⟩
          · exact ⟨Nat.lt_trans further shorter, Nat.lt_trans further' shorter'⟩

theorem Agree.sepBy1 {separator : Scan β} {first second : Scan α} (between : separator.Verbatim)
    (agree : Agree related first second) :
    Agree (List.Forall₂ related) (sepBy1 separator first) (sepBy1 separator second) := by
  refine agree.bind fun value value' same => ?_
  refine (Agree.seqRight between agree).many.bind fun values values' all => ?_
  exact agree_pure (.cons same all)

end Scan

/-! ## Strings -/

namespace Grammar

/-- Whether the rests of two strings both end, and variants are left behind them. -/
def Close (last : OpenQuote) (left right : List Char) : Prop :=
  stringRest left = none ∧ stringRest right = none ∨
    ∃ content content' left' right', stringRest left = some (content, left') ∧
      stringRest right = some (content', right') ∧ Variants last none left' right' ∧
      left'.length < left.length ∧ right'.length < right.length

theorem Close.of_content {last : OpenQuote} {left right : List Char} (close : Close last left right)
    (first second : List Char) :
    Close last (Text.doubleQuotes first ++ left) (Text.doubleQuotes second ++ right) := by
  unfold Close
  simp only [stringRest_doubleQuotes, List.length_append]
  rcases close with ⟨open_left, open_right⟩ |
    ⟨content, content', left', right', closes, closes', others, shorter, shorter'⟩
  · exact .inl ⟨by rw [open_left]; rfl, by rw [open_right]; rfl⟩
  · exact .inr ⟨first ++ content, second ++ content', left', right', by rw [closes]; rfl,
      by rw [closes']; rfl, others, by omega, by omega⟩

/-- A string ends in both variants, or in none.  A quote that ends the string may turn out to be the
first half of a quote written twice, which opens the next string at once. -/
theorem close_of_variants {last quote : OpenQuote} {left right : List Char}
    (variants : Variants last quote left right) :
    (quote = some '\x27' → Close last left right) ∧
      (quote = none → Close last ('\x27' :: left) ('\x27' :: right)) := by
  induction variants with
  | done =>
      refine ⟨fun _ => .inl ⟨rfl, rfl⟩, ?_⟩
      rintro rfl
      exact .inr ⟨[], [], [], [], rfl, rfl, .done, by simp, by simp⟩
  | @same c quote left right others induction =>
      by_cases plain : c = '\x27'
      · subst plain
        constructor
        · rintro rfl
          exact induction.2 rfl
        · rintro rfl
          exact (induction.1 rfl).of_content ['\x27'] ['\x27']
      · constructor
        · rintro rfl
          have close := (induction.1 (if_neg plain)).of_content [c] [c]
          rwa [Text.doubleQuotes_of_plain plain] at close
        · rintro rfl
          have single (rest : List Char) : (c :: rest).head? ≠ some '\x27' := by simpa using plain
          exact .inr ⟨[], [], c :: left, c :: right, stringRest_of_end (single left),
            stringRest_of_end (single right), .same c others, by simp, by simp⟩
  | string first second others induction =>
      refine ⟨fun contra => ?_, fun _ => ?_⟩
      · contradiction
      · exact ((induction.2 rfl).of_content first second).of_content ['\x27'] ['\x27']

end Grammar
end SqlEngine
