import SqlEngine.Proofs.Variants
import SqlEngine.Proofs.Vocabulary

/-!
# Closed texts

A text is closed when every quote in it is followed by a second one of its kind and no semicolon
stands outside quotes.  Scanners that are put together from scanners of closed texts read closed
texts again, whatever quotes stand between other quotes.
-/

namespace SqlEngine

namespace OpenQuote

/-- Whether a character neither opens a quote nor ends a statement. -/
def isInert (c : Char) : Bool :=
  !opens c && c != ';'

/-- Whether all characters that pass a test are inert. -/
def Inert (test : Char → Bool) : Prop :=
  ∀ c, test c = true → isInert c = true

theorem inert {test : Char → Bool} (outside : Outside test) (semicolon : test ';' = false) :
    Inert test := by
  intro c passes
  have unquoted : opens c = false := outside.unquoted passes
  have other : c ≠ ';' := by
    rintro rfl
    rw [semicolon] at passes
    contradiction
  simp [isInert, unquoted, other]

end OpenQuote

/-- Texts of which every quote is closed and every semicolon stands between quotes. -/
inductive Closed : List Char → Prop where
  /-- Nothing is left. -/
  | nil : Closed []
  /-- The next character means nothing to the quotes. -/
  | inert {c : Char} {rest : List Char} (inert : OpenQuote.isInert c = true)
      (others : Closed rest) : Closed (c :: rest)
  /-- Next is a text between two quotes. -/
  | quoted {quote : Char} {content rest : List Char} (opens : OpenQuote.opens quote = true)
      (without : quote ∉ content) (others : Closed rest) :
      Closed (quote :: (content ++ quote :: rest))

namespace Closed

variable {front rest : List Char}

theorem append (first : Closed front) (others : Closed rest) : Closed (front ++ rest) := by
  induction first with
  | nil => exact others
  | inert passes _ induction => exact inert passes induction
  | quoted opens without _ induction =>
      rw [List.cons_append, List.append_assoc, List.cons_append]
      exact quoted opens without induction

theorem of_forall (all : ∀ c ∈ front, OpenQuote.isInert c = true) : Closed front := by
  induction front with
  | nil => exact nil
  | cons c front induction =>
      obtain ⟨first, others⟩ := List.forall_mem_cons.mp all
      exact inert first (induction others)

/-- A character more behind the first quote of a text, if it is no such quote. -/
theorem cons_of_quote {quote c : Char} (opens : OpenQuote.opens quote = true) (other : c ≠ quote)
    (closed : Closed (quote :: rest)) : Closed (quote :: c :: rest) := by
  cases closed with
  | inert passes _ => simp [OpenQuote.isInert, opens] at passes
  | quoted _ without others =>
      have apart : quote ∉ c :: _ := List.not_mem_cons_of_ne_of_not_mem other.symm without
      exact quoted opens apart others

end Closed

namespace Scan

variable {α β : Type} {good : α → Prop} {good' : β → Prop}

/-- Whether a scanner reads closed texts only, and gives values in a given set. -/
def Reads (good : α → Prop) (item : Scan α) : Prop :=
  ∀ ⦃chars value rest⦄, item chars = .done (value, rest) →
    good value ∧ ∃ front, Closed front ∧ chars = front ++ rest

theorem reads_pure {value : α} (holds : good value) : Reads good (pure value) := by
  intro chars result rest read
  obtain ⟨rfl, rfl⟩ := pure_eq_done.mp read
  exact ⟨holds, [], .nil, rfl⟩

theorem Reads.mono {wider : α → Prop} {item : Scan α} (reads : Reads good item)
    (all : ∀ value, good value → wider value) : Reads wider item := by
  intro chars value rest read
  obtain ⟨holds, closed⟩ := reads read
  exact ⟨all value holds, closed⟩

theorem Reads.bind {item : Scan α} {next : α → Scan β} (first : Reads good item)
    (second : ∀ value, good value → Reads good' (next value)) : Reads good' (item >>= next) := by
  intro chars result rest read
  obtain ⟨value, left, here, there⟩ := bind_eq_done.mp read
  obtain ⟨holds, front, closed, rfl⟩ := first here
  obtain ⟨holds', front', closed', rfl⟩ := second value holds there
  exact ⟨holds', front ++ front', closed.append closed', (List.append_assoc ..).symm⟩

theorem Reads.seqRight {item : Scan α} {next : Scan β} (first : Reads good item)
    (second : Reads good' next) : Reads good' (item *> next) :=
  first.bind fun _ _ => second

theorem Reads.orElse {first second : Scan α} (here : Reads good first)
    (there : Reads good second) : Reads good (first <|> second) := by
  intro chars value rest read
  rcases orElse_eq_done.mp read with read | ⟨-, read⟩
  · exact here read
  · exact there read

/-- What a scanner that may be left out gives, if anything. -/
theorem Reads.optional {item : Scan α} (reads : Reads good item) :
    Reads (fun found => ∀ value ∈ found, good value) (optional item) := by
  refine Reads.orElse (reads.bind fun value holds => reads_pure ?_) (reads_pure (by simp))
  simpa using holds

theorem Reads.consumed {item : Scan α} (reads : Reads good item) :
    Reads (fun _ => True) item.consumed := by
  intro chars text rest read
  obtain ⟨value, found, -⟩ := consumed_eq_done.mp read
  exact ⟨trivial, (reads found).2⟩

theorem reads_satisfy {test : Char → Bool} (inert : OpenQuote.Inert test) :
    Reads (fun c => test c = true) (satisfy test) := by
  intro chars c rest read
  obtain ⟨rfl, passes⟩ := satisfy_eq_done.mp read
  exact ⟨passes, [c], .inert (inert c passes) .nil, rfl⟩

theorem reads_char {expected : Char} (inert : OpenQuote.isInert expected = true) :
    Reads (fun _ => True) (char expected) := by
  intro chars _ rest read
  obtain rfl := char_eq_done.mp read
  exact ⟨trivial, [expected], .inert inert .nil, rfl⟩

theorem reads_span {test : Char → Bool} (inert : OpenQuote.Inert test) :
    Reads (fun found => ∀ c ∈ found, test c = true) (span test) := by
  intro chars found rest read
  obtain ⟨rfl, rfl⟩ := Prod.mk.inj (Attempt.done.inj read)
  have passes : ∀ c ∈ chars.takeWhile test, test c = true := fun c => List.mem_takeWhile_imp
  refine ⟨passes, chars.takeWhile test, ?_, List.takeWhile_append_dropWhile.symm⟩
  exact Closed.of_forall fun c member => inert c (passes c member)

theorem reads_span1 {test : Char → Bool} (inert : OpenQuote.Inert test) :
    Reads (fun found => found ≠ [] ∧ ∀ c ∈ found, test c = true) (span1 test) :=
  (reads_satisfy inert).bind fun c passes => (reads_span inert).bind fun others all =>
    reads_pure ⟨List.cons_ne_nil c others, List.forall_mem_cons.mpr ⟨passes, all⟩⟩

theorem reads_notNext (test : Char → Bool) : Reads (fun _ => True) (notNext test) := by
  intro chars value rest read
  refine ⟨trivial, [], .nil, ?_⟩
  unfold notNext at read
  split at read
  · split at read
    · contradiction
    · exact (Prod.mk.inj (Attempt.done.inj read)).2
  · exact (Prod.mk.inj (Attempt.done.inj read)).2

theorem reads_exactly {text : String} (inert : text.toList.all OpenQuote.isInert = true) :
    Reads (fun _ => True) (exactly text) := by
  intro chars _ rest read
  exact ⟨trivial, text.toList, Closed.of_forall (List.all_eq_true.mp inert),
    eq_append_of_strip? (exactly_eq_done.mp read)⟩

theorem Reads.many {item : Scan α} (reads : Reads good item) :
    Reads (fun found => ∀ value ∈ found, good value) item.many := by
  intro chars found rest read
  refine many_induction
    (motive := fun chars found rest =>
      (∀ value ∈ found, good value) ∧ ∃ front, Closed front ∧ chars = front ++ rest)
    (fun chars => ⟨by simp, [], .nil, rfl⟩) ?_ read
  rintro chars first rest others left here - ⟨all, front', closed', rfl⟩
  obtain ⟨holds, front, closed, rfl⟩ := reads here
  exact ⟨List.forall_mem_cons.mpr ⟨holds, all⟩, front ++ front', closed.append closed',
    (List.append_assoc ..).symm⟩

theorem Reads.sepBy1 {separator : Scan β} {item : Scan α} (between : Reads good' separator)
    (reads : Reads good item) :
    Reads (fun found => found ≠ [] ∧ ∀ value ∈ found, good value) (sepBy1 separator item) := by
  refine reads.bind fun first holds => (between.seqRight reads).many.bind fun others all => ?_
  exact reads_pure ⟨List.cons_ne_nil first others, List.forall_mem_cons.mpr ⟨holds, all⟩⟩

end Scan
end SqlEngine
