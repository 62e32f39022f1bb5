import SqlEngine.Proofs.Vocabulary

/-!
# Text behind a space

What a condition is made of ends in front of a space, but for what stands between quotes or
brackets.  So a scanner that has read a part of a condition to its end reads the same part when a
space and more text follow, and leaves the text behind the space.
-/

namespace SqlEngine
namespace Scan

open Grammar Wording

variable {α β : Type}

/-! ## Scanners that stop at a space -/

/-- Whether a scanner does the same, and misses the same, when a space and more text follow. -/
def Steady (item : Scan α) : Prop :=
  ∀ chars tail, item (chars ++ ' ' :: tail) =
    item chars >>= fun found => pure (found.1, found.2 ++ ' ' :: tail)

theorem steady_pure (value : α) : Steady (pure value : Scan α) := fun _ _ => rfl

theorem steady_failure : Steady (failure : Scan α) := fun _ _ => rfl

theorem Steady.bind {item : Scan α} {next : α → Scan β} (first : item.Steady)
    (second : ∀ value, (next value).Steady) : (item >>= next).Steady := by
  intro chars tail
  cases read : item chars with
  | miss => rw [bind_of_miss read, bind_of_miss (by rw [first, read]; rfl)]; rfl
  | broken => rw [bind_of_broken read, bind_of_broken (by rw [first, read]; rfl)]; rfl
  | done found =>
      obtain ⟨value, left⟩ := found
      have reads : item (chars ++ ' ' :: tail) = .done (value, left ++ ' ' :: tail) := by
        rw [first, read]
        rfl
      rw [bind_of_done read, bind_of_done reads, second value]

theorem Steady.seqRight {item : Scan α} {next : Scan β} (first : item.Steady)
    (second : next.Steady) : (item *> next).Steady :=
  first.bind fun _ => second

theorem Steady.orElse {first second : Scan α} (here : first.Steady) (there : second.Steady) :
    (first <|> second).Steady := by
  intro chars tail
  cases read : first chars with
  | miss => rw [orElse_of_miss read, orElse_of_miss (by rw [here, read]; rfl), there]
  | broken => rw [orElse_of_broken read, orElse_of_broken (by rw [here, read]; rfl)]; rfl
  | done found =>
      obtain ⟨value, left⟩ := found
      have reads : first (chars ++ ' ' :: tail) = .done (value, left ++ ' ' :: tail) := by
        rw [here, read]
        rfl
      rw [orElse_of_done read, orElse_of_done reads]
      rfl

theorem steady_satisfy {test : Char → Bool} (space : test ' ' = false) : (satisfy test).Steady := by
  intro chars tail
  cases chars with
  | nil => simp [satisfy, space]
  | cons c chars => by_cases passes : test c <;> simp [satisfy, passes]

theorem steady_char {expected : Char} (visible : expected ≠ ' ') : (char expected).Steady :=
  (steady_satisfy (by simpa using visible.symm)).bind fun _ => steady_pure ()

theorem steady_span {test : Char → Bool} (space : test ' ' = false) : (span test).Steady := by
  intro chars tail
  simp only [span, Attempt.done_bind, Attempt.pure_eq_done, Attempt.done.injEq, Prod.mk.injEq]
  induction chars with
  | nil => simp [space]
  | cons c chars induction => by_cases passes : test c <;> simp [passes, induction]

theorem steady_span1 {test : Char → Bool} (space : test ' ' = false) : (span1 test).Steady :=
  (steady_satisfy space).bind fun _ => (steady_span space).bind fun _ => steady_pure _

theorem steady_notNext {test : Char → Bool} (space : test ' ' = false) : (notNext test).Steady := by
  intro chars tail
  cases chars with
  | nil => simp [notNext, space]
  | cons c chars => by_cases passes : test c <;> simp [notNext, passes]

theorem strip?_append {same : Char → Char → Bool} {expected : List Char}
    (visible : ∀ letter ∈ expected, same letter ' ' = false) (chars tail : List Char) :
    strip? same expected (chars ++ ' ' :: tail) =
      (strip? same expected chars).map (· ++ ' ' :: tail) := by
  induction expected generalizing chars with
  | nil => rfl
  | cons letter expected induction =>
      obtain ⟨first, others⟩ := List.forall_mem_cons.mp visible
      cases chars with
      | nil => simp [strip?, first]
      | cons c chars => by_cases agrees : same letter c <;> simp [strip?, agrees, induction others]

theorem steady_exactly {text : String} (visible : ' ' ∉ text.toList) : (exactly text).Steady := by
  intro chars tail
  have differ : ∀ letter ∈ text.toList, (letter == ' ') = false := by
    rintro letter member
    refine beq_eq_false_iff_ne.mpr ?_
    rintro rfl
    exact visible member
  rw [exactly, exactly, strip?_append differ]
  cases strip? (· == ·) text.toList chars <;> rfl

end Scan

namespace Grammar

open Scan Wording

theorem steady_bareName : bareName.Steady := by
  refine (steady_satisfy (by decide)).bind fun first => ?_
  refine (steady_span (by decide +kernel)).bind fun others => ?_
  dsimp only
  split
  · exact steady_failure.bind fun _ => steady_pure _
  · exact steady_pure _

theorem steady_number : number.Steady := by
  refine Steady.bind (.orElse ((steady_char (by decide)).seqRight (steady_pure _)) (steady_pure _))
    fun minus => (steady_span1 (by decide)).bind fun whole =>
      Steady.bind (.orElse ?_ (steady_pure _)) fun fraction => steady_pure _
  exact (steady_char (by decide)).bind fun _ =>
    (steady_span1 (by decide)).bind fun _ => steady_pure _

theorem steady_oneOf {signs : List (String × Token)}
    (visible : ∀ sign ∈ signs, ' ' ∉ sign.1.toList) : (oneOf signs).Steady := by
  induction signs with
  | nil => exact steady_failure
  | cons sign signs induction =>
      obtain ⟨first, others⟩ := List.forall_mem_cons.mp visible
      exact .orElse ((steady_exactly first).seqRight (steady_pure _)) (induction others)

end Grammar

/-! ## Scanners that go on behind a space -/

namespace Scan

open Grammar Wording

variable {α β : Type}

/-- Whether a scanner that reads a text reads the same when a space and more text follow.  It may
skip spaces behind what it reads. -/
def Extends (item : Scan α) : Prop :=
  ∀ ⦃chars value left⦄, item chars = .done (value, left) → ∀ tail, ∃ rest,
    item (chars ++ ' ' :: tail) = .done (value, rest) ∧
      rest.dropWhile isSpace = (left ++ ' ' :: tail).dropWhile isSpace

/-- Whether a scanner misses everything that another one reads. -/
def Excludes (first : Scan α) (second : Scan β) : Prop :=
  ∀ ⦃chars found⦄, second chars = .done found → first chars = .miss

theorem Steady.extends {item : Scan α} (steady : item.Steady) : item.Extends := by
  intro chars value left read tail
  exact ⟨left ++ ' ' :: tail, by rw [steady, read]; rfl, rfl⟩

theorem Extends.map {item : Scan α} (first : item.Extends) (change : α → β) :
    Extends (item >>= fun value => pure (change value)) := by
  intro chars value left read tail
  obtain ⟨found, middle, reads, done⟩ := bind_eq_done.mp read
  obtain ⟨rfl, rfl⟩ := pure_eq_done.mp done
  obtain ⟨rest, again, same⟩ := first reads tail
  exact ⟨rest, bind_eq_done.mpr ⟨found, rest, again, rfl⟩, same⟩

theorem Extends.orElse {first second : Scan α} (here : first.Extends) (there : second.Extends)
    (excludes : first.Excludes second) : (first <|> second).Extends := by
  intro chars value left read tail
  rcases orElse_eq_done.mp read with reads | ⟨-, reads⟩
  · obtain ⟨rest, again, same⟩ := here reads tail
    exact ⟨rest, orElse_of_done again, same⟩
  · obtain ⟨rest, again, same⟩ := there reads tail
    exact ⟨rest, orElse_eq_done.mpr (.inr ⟨excludes again, again⟩), same⟩

/-- Whether a scanner is made of parts with spaces around them: it goes on behind a space, leaves no
spaces behind, and misses at the end of a text. -/
structure Tidy (item : Scan α) : Prop where
  /-- It reads the same when a space and more text follow. -/
  goes_on : item.Extends
  /-- It leaves no spaces behind. -/
  tight : ∀ ⦃chars value left⦄, item chars = .done (value, left) → Tight left
  /-- It misses at the end of a text. -/
  fails : item [] = .miss

theorem dropWhile_append_of_ne_nil {chars : List Char} (more : chars.dropWhile isSpace ≠ [])
    (rest : List Char) : (chars ++ rest).dropWhile isSpace = chars.dropWhile isSpace ++ rest := by
  rw [List.dropWhile_append, if_neg (by simpa using more)]

namespace Tidy

theorem spaced {item : Scan α} (goes_on : item.Extends) (fails : item [] = .miss) :
    (spaced item).Tidy where
  goes_on := by
    intro chars value left read tail
    rw [spaced_eq, Attempt.bind_eq_done] at read
    obtain ⟨⟨_, middle⟩, reads, ends⟩ := read
    obtain ⟨rfl, rfl⟩ := Prod.mk.inj (Attempt.done.inj ends)
    obtain ⟨rest, again, same⟩ := goes_on reads tail
    have more : chars.dropWhile isSpace ≠ [] := by
      intro empty
      rw [empty, fails] at reads
      contradiction
    refine ⟨rest.dropWhile isSpace, ?_, ?_⟩
    · rw [spaced_eq, dropWhile_append_of_ne_nil more, again]
      rfl
    · rw [List.dropWhile_idempotent, same, List.dropWhile_append, List.dropWhile_append,
        List.dropWhile_idempotent]
  tight := by
    intro chars value left read
    rw [spaced_eq, Attempt.bind_eq_done] at read
    obtain ⟨⟨_, middle⟩, -, ends⟩ := read
    obtain ⟨-, rfl⟩ := Prod.mk.inj (Attempt.done.inj ends)
    exact tight_dropWhile middle
  fails := by rw [spaced_eq, List.dropWhile_nil, fails]; rfl

theorem map {item : Scan α} (tidy : item.Tidy) (change : α → β) :
    Tidy (item >>= fun value => pure (change value)) where
  goes_on := tidy.goes_on.map change
  tight := by
    intro chars value left read
    obtain ⟨found, middle, reads, done⟩ := bind_eq_done.mp read
    obtain ⟨-, rfl⟩ := pure_eq_done.mp done
    exact tidy.tight reads
  fails := bind_of_miss tidy.fails

theorem append {item : Scan α} (tidy : item.Tidy) {chars left : List Char} {value : α}
    (read : item chars = .done (value, left)) (tail : List Char) :
    item (chars ++ ' ' :: tail) = .done (value, (left ++ ' ' :: tail).dropWhile isSpace) := by
  obtain ⟨rest, again, same⟩ := tidy.goes_on read tail
  have ends : Tight rest := tidy.tight again
  rw [again, ← same, ends]

theorem append_of_ne_nil {item : Scan α} (tidy : item.Tidy) {chars left : List Char} {value : α}
    (read : item chars = .done (value, left)) (more : left ≠ []) (tail : List Char) :
    item (chars ++ ' ' :: tail) = .done (value, left ++ ' ' :: tail) := by
  have ends : left.dropWhile isSpace = left := tidy.tight read
  rw [tidy.append read, dropWhile_append_of_ne_nil (ends.symm ▸ more), ends]

theorem bind {item : Scan α} {next : α → Scan β} (first : item.Tidy)
    (second : ∀ value, (next value).Tidy) : (item >>= next).Tidy where
  goes_on := by
    intro chars value left read tail
    obtain ⟨found, middle, reads, done⟩ := bind_eq_done.mp read
    have more : middle ≠ [] := by
      rintro rfl
      rw [(second found).fails] at done
      contradiction
    rw [bind_of_done (first.append_of_ne_nil reads more tail)]
    exact (second found).goes_on done tail
  tight := by
    intro chars value left read
    obtain ⟨found, middle, -, done⟩ := bind_eq_done.mp read
    exact (second found).tight done
  fails := bind_of_miss first.fails

theorem orElse {first second : Scan α} (here : first.Tidy) (there : second.Tidy)
    (excludes : first.Excludes second) : (first <|> second).Tidy where
  goes_on := here.goes_on.orElse there.goes_on excludes
  tight := by
    intro chars value left read
    rcases orElse_eq_done.mp read with reads | ⟨-, reads⟩
    · exact here.tight reads
    · exact there.tight reads
  fails := by rw [orElse_of_miss here.fails, there.fails]

/-- Items that are followed by another part are read in full when a space and more text follow. -/
theorem many_append {item : Scan α} {closer : Scan β} (tidy : item.Tidy) (closes : closer.Tidy)
    (excludes : item.Excludes closer) {chars left : List Char} {values : List α}
    {found : β × List Char} (read : item.many chars = .done (values, left))
    (closed : closer left = .done found) (tail : List Char) :
    item.many (chars ++ ' ' :: tail) = .done (values, left ++ ' ' :: tail) := by
  refine (many_induction
    (motive := fun chars values left => (chars = [] → left = []) ∧ (closer left = .done found →
      item.many (chars ++ ' ' :: tail) = .done (values, left ++ ' ' :: tail)))
    (fun chars => ⟨id, fun closed => many_of_miss (excludes (closes.append closed tail))⟩)
    ?_ read).2 closed
  rintro chars first rest others left reads shorter ⟨nothing, again⟩
  refine ⟨?_, fun closed => ?_⟩
  · rintro rfl
    exact absurd shorter (Nat.not_lt_zero _)
  -- What closes the items is still there, so that each item ends in front of something.
  have behind : rest ≠ [] := by
    intro empty
    rw [nothing empty, closes.fails] at closed
    contradiction
  have shorter_too : (rest ++ ' ' :: tail).length < (chars ++ ' ' :: tail).length := by
    simpa using shorter
  exact many_of_done (tidy.append_of_ne_nil reads behind tail) shorter_too (again closed)

end Tidy

namespace Excludes

variable {γ : Type} {first : Scan α} {second : Scan β}

theorem bind_left {next : α → Scan γ} (excludes : first.Excludes second) :
    Excludes (first >>= next) second :=
  fun _ _ read => bind_of_miss (excludes read)

theorem bind_right {next : β → Scan γ} (excludes : first.Excludes second) :
    first.Excludes (second >>= next) := by
  rintro chars ⟨value, left⟩ read
  obtain ⟨found, middle, reads, -⟩ := bind_eq_done.mp read
  exact excludes reads

theorem bind {next : β → Scan γ} {next' : α → Scan γ} (excludes : first.Excludes second) :
    Excludes (first >>= next') (second >>= next) :=
  excludes.bind_left.bind_right

/-- Two scanners with the same first part exclude each other if what follows it does. -/
theorem behind {next next' : α → Scan γ}
    (excludes : ∀ value, (next value).Excludes (next' value)) :
    Excludes (first >>= next) (first >>= next') := by
  rintro chars ⟨value, left⟩ read
  obtain ⟨found, middle, reads, done⟩ := bind_eq_done.mp read
  rw [bind_of_done reads, excludes found done]

theorem orElse {third : Scan β} (here : first.Excludes second) (there : first.Excludes third) :
    first.Excludes (second <|> third) := by
  rintro chars ⟨value, left⟩ read
  rcases orElse_eq_done.mp read with reads | ⟨-, reads⟩
  · exact here reads
  · exact there reads

theorem spaced (excludes : first.Excludes second) : (spaced first).Excludes (spaced second) := by
  rintro chars ⟨value, left⟩ read
  rw [spaced_eq, Attempt.bind_eq_done] at read
  obtain ⟨found, reads, -⟩ := read
  rw [spaced_eq, excludes reads]
  rfl

end Excludes

/-- Items with separators between them, and a part that closes them. -/
theorem Tidy.closed {γ : Type} {separator : Scan β} {item : Scan α} {closer : Scan γ}
    (tidy : item.Tidy) (separates : separator.Tidy) (closes : closer.Tidy)
    (excludes : separator.Excludes closer) :
    Tidy (sepBy1 separator item >>= fun values => closer >>= fun _ => pure values) where
  goes_on := by
    intro chars values left read tail
    obtain ⟨_, behind, read, done⟩ := bind_eq_done.mp read
    obtain ⟨first, middle, reads, read⟩ := bind_eq_done.mp read
    obtain ⟨others, behind', listed, ends⟩ := bind_eq_done.mp read
    obtain ⟨rfl, rfl⟩ := pure_eq_done.mp ends
    obtain ⟨found, left', closed, ends⟩ := bind_eq_done.mp done
    obtain ⟨rfl, rfl⟩ := pure_eq_done.mp ends
    have more : middle ≠ [] := by
      rintro rfl
      have none_left : (separator *> item).many [] = .done ([], []) :=
        many_of_miss (seqRight_of_miss separates.fails)
      obtain ⟨-, rfl⟩ := Prod.mk.inj (Attempt.done.inj (listed.symm.trans none_left))
      rw [closes.fails] at closed
      contradiction
    have goes_on : (separator *> item).many (middle ++ ' ' :: tail) =
        .done (others, behind' ++ ' ' :: tail) :=
      Tidy.many_append (separates.bind fun _ => tidy) closes (Excludes.bind_left excludes) listed
        closed tail
    obtain ⟨rest, again, same⟩ := closes.goes_on closed tail
    refine ⟨rest, bind_eq_done.mpr ⟨first :: others, behind' ++ ' ' :: tail, ?_, ?_⟩, same⟩
    · refine bind_eq_done.mpr ⟨first, _, tidy.append_of_ne_nil reads more tail, ?_⟩
      exact bind_eq_done.mpr ⟨others, _, goes_on, rfl⟩
    · exact bind_eq_done.mpr ⟨found, rest, again, rfl⟩
  tight := by
    intro chars values left read
    obtain ⟨_, behind, -, done⟩ := bind_eq_done.mp read
    exact (closes.map fun _ => _).tight done
  fails := bind_of_miss (bind_of_miss tidy.fails)

end Scan

namespace Grammar

open Scan Wording

/-! ## Parts of conditions -/

/-- Whether a scanner misses every text that does not start with a character that passes a test. -/
def StartsWith {α : Type} (test : Char → Bool) (item : Scan α) : Prop :=
  ∀ ⦃chars⦄, (∀ c ∈ chars.head?, test c = false) → item chars = .miss

theorem StartsWith.exists_cons {α : Type} {test : Char → Bool} {item : Scan α}
    (starts : StartsWith test item) {chars : List Char} {found : α × List Char}
    (read : item chars = .done found) : ∃ c rest, chars = c :: rest ∧ test c = true := by
  cases chars with
  | nil =>
      rw [starts (by simp)] at read
      contradiction
  | cons c rest =>
      refine ⟨c, rest, rfl, ?_⟩
      by_contra fails
      rw [starts (by simpa using fails)] at read
      contradiction

theorem StartsWith.bind {α β : Type} {test : Char → Bool} {item : Scan α} {next : α → Scan β}
    (starts : StartsWith test item) : StartsWith test (item >>= next) :=
  fun _ other => bind_of_miss (starts other)

theorem startsWith_satisfy (test : Char → Bool) : StartsWith test (satisfy test) := by
  intro chars other
  cases chars with
  | nil => rfl
  | cons c rest => simp [satisfy, other c rfl]

theorem StartsWith.orElse {α : Type} {test : Char → Bool} {first second : Scan α}
    (here : StartsWith test first) (there : StartsWith test second) :
    StartsWith test (first <|> second) :=
  fun _ other => (orElse_of_miss (here other)).trans (there other)

theorem StartsWith.mono {α : Type} {test test' : Char → Bool} {item : Scan α}
    (starts : StartsWith test item) (weaker : ∀ c, test c = true → test' c = true) :
    StartsWith test' item := by
  refine fun chars other => starts fun c first => Bool.eq_false_iff.mpr fun passes => ?_
  have fails := other c first
  rw [weaker c passes] at fails
  contradiction

/-- Scanners of texts that start in different ways exclude each other. -/
theorem StartsWith.excludes {α β : Type} {test test' : Char → Bool} {first : Scan α}
    {second : Scan β} (here : StartsWith test first) (there : StartsWith test' second)
    (apart : ∀ c, test' c = true → test c = false) : first.Excludes second := by
  intro chars found read
  obtain ⟨c, rest, rfl, passes⟩ := there.exists_cons read
  refine here fun d head => ?_
  obtain rfl := Option.some.inj head
  exact apart c passes

theorem nameWithin_eq_done {quote : Char} {chars left : List Char} {name : String} :
    nameWithin quote chars = .done (name, left) ↔
      ∃ content, chars = quote :: (content ++ quote :: left) ∧ quote ∉ content ∧
        String.ofList content = name := by
  constructor
  · intro read
    obtain ⟨_, inside, opened, read⟩ := bind_eq_done.mp read
    obtain ⟨content, behind, spanned, read⟩ := bind_eq_done.mp read
    obtain ⟨_, rest, closed, done⟩ := bind_eq_done.mp read
    obtain ⟨rfl, rfl⟩ := pure_eq_done.mp done
    obtain rfl := char_eq_done.mp opened
    obtain rfl := char_eq_done.mp closed
    obtain ⟨taken, dropped⟩ := Prod.mk.inj (Attempt.done.inj spanned)
    refine ⟨content, ?_, fun member => ?_, rfl⟩
    · rw [← dropped, ← taken, List.takeWhile_append_dropWhile]
    · rw [← taken] at member
      simpa using List.mem_takeWhile_imp member
  · rintro ⟨content, rfl, plain, rfl⟩
    simpa using nameWithin_append plain left

theorem extends_nameWithin (quote : Char) : (nameWithin quote).Extends := by
  intro chars name left read tail
  obtain ⟨content, rfl, plain, written⟩ := nameWithin_eq_done.mp read
  exact ⟨left ++ ' ' :: tail, nameWithin_eq_done.mpr ⟨content, by simp, plain, written⟩, rfl⟩

theorem stringRest_append {chars left content : List Char}
    (read : stringRest chars = some (content, left)) (tail : List Char) :
    stringRest (chars ++ ' ' :: tail) = some (content, left ++ ' ' :: tail) := by
  fun_induction stringRest chars generalizing content left with
  | case1 => contradiction
  | case2 others induction =>
      obtain ⟨⟨front, _⟩, reads, ends⟩ := Option.map_eq_some_iff.mp read
      obtain ⟨rfl, rfl⟩ := Prod.mk.inj ends
      rw [List.cons_append, List.cons_append, stringRest_of_twice, induction reads]
      rfl
  | case3 d others single =>
      obtain ⟨rfl, rfl⟩ := Prod.mk.inj (Option.some.inj read)
      rw [List.cons_append, stringRest_of_end (by simpa using single)]
  | case4 =>
      obtain ⟨rfl, rfl⟩ := Prod.mk.inj (Option.some.inj read)
      rw [List.singleton_append, stringRest_of_end (by simp), List.nil_append]
  | case5 c rest plain induction =>
      obtain ⟨⟨front, _⟩, reads, ends⟩ := Option.map_eq_some_iff.mp read
      obtain ⟨rfl, rfl⟩ := Prod.mk.inj ends
      rw [List.cons_append, stringRest_of_plain plain, induction reads]
      rfl

theorem extends_stringLiteral : stringLiteral.Extends := by
  intro chars name left read tail
  obtain ⟨_, inside, opened, read⟩ := bind_eq_done.mp read
  obtain ⟨content, rest, closed, done⟩ := bind_eq_done.mp read
  obtain ⟨rfl, rfl⟩ := pure_eq_done.mp done
  obtain rfl := char_eq_done.mp opened
  refine ⟨rest ++ ' ' :: tail, ?_, rfl⟩
  have goes_on := stringRest_append (Attempt.ofOption_eq_done.mp closed) tail
  refine (bind_of_done (char_self '\x27' _)).trans (bind_of_done ?_)
  exact congrArg Attempt.ofOption goes_on

theorem tidy_sign {expected : Char} (visible : expected ≠ ' ') : (sign expected).Tidy :=
  .spaced (steady_char visible).extends rfl

/-- Text behind a word does not change how it is read, unless a sign counted as its last letters. -/
theorem letters_extend {expected lexeme : String} (plain : isPlain expected = true)
    (settled : isSettled expected.toList = true) {chars left : List Char}
    (read : letters expected chars = .done (lexeme, left)) (tail : List Char) :
    letters expected (chars ++ tail) = .done (lexeme, left ++ tail) := by
  obtain ⟨front, rfl, same, written⟩ := (letters_eq_done plain settled).mp read
  exact (letters_eq_done plain settled).mpr ⟨front, by simp, same, written⟩

theorem tidy_word {expected : String} (plain : isPlain expected = true)
    (settled : isSettled expected.toList = true) : (word expected).Tidy := by
  refine .spaced ?_ (bind_of_miss (letters_of_head plain fun _ _ _ contra => nomatch contra))
  intro chars value left read tail
  obtain ⟨lexeme, behind, reads, read⟩ := bind_eq_done.mp read
  have ends : Steady (notNext isNameChar >>= fun _ => pure lexeme) :=
    (steady_notNext (by decide +kernel)).bind fun _ => steady_pure _
  rw [bind_of_done (letters_extend plain settled reads (' ' :: tail))]
  exact ends.extends read tail

theorem consumed_append {α : Type} {item : Scan α} {chars left : List Char} {text : String}
    (read : consumed item chars = .done (text, left)) {tail : List Char}
    (goes_on : ∀ value, item chars = .done (value, left) →
      item (chars ++ ' ' :: tail) = .done (value, left ++ ' ' :: tail)) :
    consumed item (chars ++ ' ' :: tail) = .done (text, left ++ ' ' :: tail) := by
  obtain ⟨value, reads, rfl⟩ := consumed_eq_done.mp read
  refine consumed_eq_done.mpr ⟨value, goes_on value reads, ?_⟩
  have front : (chars ++ ' ' :: tail).length - (left ++ ' ' :: tail).length =
      chars.length - left.length := by
    simp only [List.length_append]
    omega
  rw [front, List.take_append_of_le_length (Nat.sub_le _ _)]

theorem startsWith_letters {expected : String} (plain : isPlain expected = true) {first : Char}
    (head : expected.toList.head? = some first) :
    StartsWith (fun c => small first == small c) (letters expected) := by
  intro chars other
  refine letters_of_head plain fun letter head' c first' => ?_
  obtain rfl := Option.some.inj (head.symm.trans head')
  exact beq_eq_false_iff_ne.mp (other c first')

theorem StartsWith.consumed {α : Type} {test : Char → Bool} {item : Scan α}
    (starts : StartsWith test item) : StartsWith test (Scan.consumed item) := by
  intro chars other
  rw [Scan.consumed, starts other, Attempt.miss_bind]

theorem extends_currentTime : currentTime.Extends := by
  have call : Extends (consumed (letters "NOW" *> sign '(' *> Scan.char ')')) := by
    intro chars text left read tail
    refine ⟨left ++ ' ' :: tail, consumed_append read fun _ reads => ?_, rfl⟩
    obtain ⟨_, inside, reads, closed⟩ := seqRight_eq_done.mp reads
    obtain ⟨lexeme, behind, named, opened⟩ := seqRight_eq_done.mp reads
    obtain rfl := char_eq_done.mp closed
    have named_too := letters_extend (by decide) (by decide) named (' ' :: tail)
    have opened_too := (tidy_sign (by decide)).append_of_ne_nil opened (List.cons_ne_nil _ _) tail
    have call := (seqRight_of_done named_too).trans opened_too
    exact (seqRight_of_done call).trans (char_self ')' (left ++ ' ' :: tail))
  have stamp : (letters "CURRENT_TIMESTAMP").Extends := fun chars text left read tail =>
    ⟨left ++ ' ' :: tail, letters_extend (by decide) (by decide) read (' ' :: tail), rfl⟩
  refine call.orElse stamp ?_
  have now : StartsWith (fun c => small 'N' == small c) (letters "NOW") :=
    startsWith_letters (by decide) rfl
  have current : StartsWith (fun c => small 'C' == small c) (letters "CURRENT_TIMESTAMP") :=
    startsWith_letters (by decide) rfl
  refine StartsWith.excludes (now.bind.bind.consumed) current fun c first => ?_
  rw [← beq_iff_eq.mp first]
  decide

/-- Whether neither of two words starts with the other, and no sign counts as letters of the second. -/
def WordsApart (expected other : String) : Prop :=
  (isPlain expected = true ∧ isPlain other = true ∧ isSettled other.toList = true) ∧
    ¬ caseless expected.toList <+: caseless other.toList ∧
    ¬ caseless other.toList <+: caseless expected.toList

instance (expected other : String) : Decidable (WordsApart expected other) :=
  inferInstanceAs (Decidable (_ ∧ _))

theorem excludes_letters {expected other : String} (differ : WordsApart expected other) :
    (letters expected).Excludes (letters other) := by
  rintro chars ⟨lexeme, left⟩ read
  obtain ⟨⟨plain, plain', settled⟩, longer, shorter⟩ := differ
  obtain ⟨front, rfl, same, -⟩ := (letters_eq_done plain' settled).mp read
  refine if_neg fun agree => ?_
  have letters := isLetter_of_caseless (letters_plain plain') same
  rw [← same] at longer shorter
  rcases cases_of_agrees (letters_plain plain) letters agree with
    ⟨here, more, rfl, whole⟩ | ⟨here, next, more, split, front_eq, -⟩
  · rw [← whole] at longer
    exact longer ((List.prefix_append here more).map Char.toLower)
  · rw [← front_eq, split] at shorter
    exact shorter ((List.prefix_append here (next :: more)).map Char.toLower)

theorem excludes_word {expected other : String} (differ : WordsApart expected other) :
    (word expected).Excludes (word other) :=
  (excludes_letters differ).bind.spaced

/-- A scanner that skips spaces in front does not read what another one reads that starts with none.
-/
theorem excludes_spaced {α β : Type} {first : Scan α} {second : Scan β} {test : Char → Bool}
    (starts : StartsWith test second) (visible : ∀ c, test c = true → isSpace c = false)
    (excludes : first.Excludes second) : (spaced first).Excludes second := by
  intro chars found read
  obtain ⟨c, rest, rfl, passes⟩ := starts.exists_cons read
  rw [spaced_eq, List.dropWhile_cons_of_neg (by simp [visible c passes]), excludes read]
  rfl

theorem startsWith_oneOf {signs : List (String × Token)}
    (nonempty : ∀ sign ∈ signs, sign.1.toList ≠ []) :
    StartsWith (fun c => signs.any fun sign => sign.1.toList.head? == some c) (oneOf signs) := by
  induction signs with
  | nil => exact fun _ _ => rfl
  | cons sign signs induction =>
      obtain ⟨first, others⟩ := List.forall_mem_cons.mp nonempty
      refine StartsWith.orElse ?_ ((induction others).mono fun c passes => by simp [passes])
      refine StartsWith.bind fun chars other => ?_
      obtain ⟨c, rest, split⟩ := List.exists_cons_of_ne_nil first
      cases chars with
      | nil => simp [exactly, split, strip?]
      | cons d chars =>
          have differ : c ≠ d := by simpa [split] using (Bool.or_eq_false_iff.mp (other d rfl)).1
          simp [exactly, split, strip?, differ]

theorem startsWith_nameWithin (quote : Char) : StartsWith (· == quote) (nameWithin quote) :=
  (startsWith_satisfy _).bind.bind

theorem tidy_name : name.Tidy := by
  have bare : StartsWith (fun c => c.isAlpha || c == '_') bareName := (startsWith_satisfy _).bind
  have quoted {quote : Char} (plain : (quote.isAlpha || quote == '_') = false) :
      (nameWithin quote).Excludes bareName := by
    refine (startsWith_nameWithin quote).excludes bare fun c passes => beq_eq_false_iff_ne.mpr ?_
    rintro rfl
    rw [plain] at passes
    contradiction
  have quotes : (nameWithin '\x22').Excludes (nameWithin '\x60') :=
    (startsWith_nameWithin _).excludes (startsWith_nameWithin _) fun c back => by
      rw [beq_iff_eq.mp back]
      decide
  refine .spaced (.orElse (extends_nameWithin _) (.orElse (extends_nameWithin _)
    steady_bareName.extends (quoted (by decide))) (quotes.orElse (quoted (by decide)))) ?_
  decide +kernel

theorem tidy_wordNode {token : Token} {expected : String} (plain : isPlain expected = true)
    (settled : isSettled expected.toList = true) : (wordNode token expected).Tidy :=
  (tidy_word plain settled).map _

/-- Whether a character neither counts as a letter nor is a space. -/
def isMark (c : Char) : Bool :=
  !isLetter (small c) && !isSpace c

theorem not_isSpace_of_isLetter {c : Char} (letter : isLetter (small c) = true) :
    isSpace c = false := by
  by_contra space
  simp only [isSpace, Bool.not_eq_false, Bool.or_eq_true, beq_iff_eq] at space
  rcases space with ((rfl | rfl) | rfl) | rfl <;> exact absurd letter (by decide)

theorem isMark_of_isDigit {c : Char} (digit : c.isDigit = true) : isMark c = true := by
  have visible : isSpace c = false := by
    by_contra space
    simp only [isSpace, Bool.not_eq_false, Bool.or_eq_true, beq_iff_eq] at space
    rcases space with ((rfl | rfl) | rfl) | rfl <;> exact absurd digit (by decide)
  simp [isMark, not_isLetter_small_of_digit digit, visible]

theorem startsWith_isLetter {expected : String} (plain : isPlain expected = true) :
    StartsWith (fun c => isLetter (small c)) (letters expected) :=
  fun _ other => letters_of_first plain other

/-- A scanner of a word does not read what starts with no letter. -/
theorem excludes_of_isMark {α β : Type} {first : Scan α} {second : Scan β}
    (letter : StartsWith (fun c => isLetter (small c)) first) (starts : StartsWith isMark second) :
    (spaced first).Excludes second := by
  have no_letter {c : Char} (mark : isMark c = true) :
      isLetter (small c) = false ∧ isSpace c = false := by
    simpa [isMark] using mark
  exact excludes_spaced starts (fun c mark => (no_letter mark).2)
    (letter.excludes starts fun c mark => (no_letter mark).1)

theorem startsWith_quote : StartsWith (· == '\x27') stringLiteral :=
  (startsWith_satisfy _).bind.bind

theorem startsWith_stringLiteral : StartsWith isMark stringLiteral :=
  startsWith_quote.mono fun c quote => by
    rw [beq_iff_eq.mp quote]
    decide

theorem startsWith_digit : StartsWith (fun c => c == '-' || c.isDigit) number := by
  intro chars other
  have minus : Scan.char '-' chars = .miss := (startsWith_satisfy _).bind fun c first =>
    (Bool.or_eq_false_iff.mp (other c first)).1
  have digits : span1 Char.isDigit chars = .miss := (startsWith_satisfy _).bind fun c first =>
    (Bool.or_eq_false_iff.mp (other c first)).2
  have unsigned : ((Scan.char '-' *> pure ['-']) <|> pure [] : Scan (List Char)) chars =
      .done ([], chars) := orElse_of_miss (seqRight_of_miss minus)
  exact (bind_of_done unsigned).trans (bind_of_miss digits)

theorem startsWith_number : StartsWith isMark number :=
  startsWith_digit.mono fun c passes => by
    rcases Bool.or_eq_true_iff.mp passes with minus | digit
    · rw [beq_iff_eq.mp minus]
      decide
    · exact isMark_of_isDigit digit

theorem startsWith_currentTime : StartsWith (fun c => isLetter (small c)) currentTime :=
  have now : StartsWith (fun c => isLetter (small c)) (letters "NOW") :=
    startsWith_isLetter (by decide)
  .orElse now.bind.bind.consumed (startsWith_isLetter (by decide))

/-- A word is not the current time if it differs from both ways to write that. -/
theorem excludes_currentTime {expected : String} (now : WordsApart expected "NOW")
    (stamp : WordsApart expected "CURRENT_TIMESTAMP") :
    (word expected).Excludes currentTime := by
  have call : (letters expected).Excludes
      (consumed (letters "NOW" *> sign '(' *> Scan.char ')')) := by
    rintro chars ⟨text, left⟩ read
    obtain ⟨_, reads, -⟩ := consumed_eq_done.mp read
    exact (excludes_letters now).bind_right.bind_right reads
  refine excludes_spaced startsWith_currentTime (fun c letter => not_isSpace_of_isLetter letter) ?_
  exact (call.orElse (excludes_letters stamp)).bind_left

theorem tidy_literal : literal.Tidy := by
  have goes_on {token : Token} {expected : String} (plain : isPlain expected = true)
      (settled : isSettled expected.toList = true) : (wordNode token expected).Extends :=
    (tidy_wordNode plain settled).goes_on
  -- A word is told from another by its letters, and from a string or a number by its first one.
  have plain {β : Type} {token : Token} {expected : String} {second : Scan β} {change : β → Tree}
      (plain : isPlain expected = true) (starts : StartsWith isMark second) :
      (wordNode token expected).Excludes (second >>= fun value => pure (change value)) :=
    (excludes_of_isMark (startsWith_isLetter plain).bind starts).bind
  have words {token token' : Token} {expected other : String}
      (differ : WordsApart expected other) :
      (wordNode token expected).Excludes (wordNode token' other) :=
    (excludes_word differ).bind
  have times {token : Token} {expected : String} {change : String → Tree}
      (now : WordsApart expected "NOW") (stamp : WordsApart expected "CURRENT_TIMESTAMP") :
      (wordNode token expected).Excludes (currentTime >>= fun value => pure (change value)) :=
    (excludes_currentTime now stamp).bind
  have time_or {β : Type} {second : Scan β} {change : String → Tree} {change' : β → Tree}
      (starts : StartsWith isMark second) :
      Excludes (currentTime >>= fun value => pure (change value))
        (second >>= fun value => pure (change' value)) :=
    (startsWith_currentTime.excludes starts fun c mark => by
      simp only [isMark, Bool.and_eq_true, Bool.not_eq_true'] at mark
      exact mark.1).bind
  have not_quote (c : Char) (passes : (c == '-' || c.isDigit) = true) : (c == '\x27') = false := by
    refine beq_eq_false_iff_ne.mpr ?_
    rintro rfl
    exact absurd passes (by decide)
  refine .spaced ?_ (by decide +kernel)
  refine .orElse (goes_on (by decide) (by decide)) (.orElse (goes_on (by decide) (by decide))
    (.orElse (goes_on (by decide) (by decide)) (.orElse (extends_currentTime.map _)
      (.orElse (extends_stringLiteral.map _) (steady_number.extends.map _) ?_) ?_) ?_) ?_) ?_
  · exact ((startsWith_quote.excludes startsWith_digit) not_quote).bind
  · exact (time_or startsWith_stringLiteral).orElse (time_or startsWith_number)
  · exact (times (by decide) (by decide)).orElse
      ((plain (by decide) startsWith_stringLiteral).orElse (plain (by decide) startsWith_number))
  · exact (words (by decide)).orElse ((times (by decide) (by decide)).orElse
      ((plain (by decide) startsWith_stringLiteral).orElse (plain (by decide) startsWith_number)))
  · exact (words (by decide)).orElse ((words (by decide)).orElse
      ((times (by decide) (by decide)).orElse ((plain (by decide) startsWith_stringLiteral).orElse
        (plain (by decide) startsWith_number))))

theorem tidy_values : (bracketed (listed literal)).Tidy := by
  have comma : (sign ',').Excludes (sign ')') :=
    (Excludes.spaced ((startsWith_satisfy _).bind.excludes (startsWith_satisfy _).bind
      fun c closes => by rw [beq_iff_eq.mp closes]; decide))
  exact (tidy_sign (by decide)).bind fun _ =>
    .closed tidy_literal (tidy_sign (by decide)) (tidy_sign (by decide)) comma

theorem tidy_nameNode : nameNode.Tidy :=
  tidy_name.map _

theorem tidy_comparisonSign : (spaced (oneOf comparisons)).Tidy :=
  .spaced (steady_oneOf (by decide)).extends (by decide +kernel)

/-- A word is told from a sign by its first letter. -/
theorem excludes_comparisonSign {expected : String} (plain : isPlain expected = true) :
    (word expected).Excludes (spaced (oneOf comparisons)) := by
  have marked : ∀ sign ∈ comparisons, sign.1.toList.head?.all isMark = true := by decide +kernel
  have signs : StartsWith isMark (oneOf comparisons) := by
    refine (startsWith_oneOf (by decide)).mono fun c starts => ?_
    obtain ⟨sign, member, head⟩ := List.any_eq_true.mp starts
    simpa [beq_iff_eq.mp head] using marked sign member
  have word : StartsWith (fun c => isLetter (small c)) (letters expected) :=
    startsWith_isLetter plain
  exact (word.bind.excludes signs fun c mark => by
    simp only [isMark, Bool.and_eq_true, Bool.not_eq_true'] at mark
    exact mark.1).spaced

theorem tidy_term : term.Tidy := by
  have word {expected : String} (plain : isPlain expected = true)
      (settled : isSettled expected.toList = true) {next : String → Scan Tree}
      (tidy : ∀ lexeme, (next lexeme).Tidy) : (word expected >>= next).Tidy :=
    (tidy_word plain settled).bind tidy
  have not_null : isNotNull.Tidy := tidy_nameNode.bind fun _ =>
    word (by decide) (by decide) fun _ => word (by decide) (by decide) fun _ =>
      (tidy_word (by decide) (by decide)).map _
  have null : isNull.Tidy := tidy_nameNode.bind fun _ =>
    word (by decide) (by decide) fun _ => (tidy_word (by decide) (by decide)).map _
  have within : inList.Tidy := tidy_nameNode.bind fun _ =>
    word (by decide) (by decide) fun _ => tidy_values.map _
  have like : like.Tidy := tidy_nameNode.bind fun _ =>
    word (by decide) (by decide) fun _ => tidy_literal.map _
  have compare : comparison.Tidy := tidy_nameNode.bind fun _ =>
    tidy_comparisonSign.bind fun _ => tidy_literal.map _
  have words {expected other : String} (differ : WordsApart expected other)
      {next next' : String → Scan Tree} :
      (Grammar.word expected >>= next).Excludes (Grammar.word other >>= next') :=
    (excludes_word differ).bind
  have signs {expected : String} (plain : isPlain expected = true)
      {next : String → Scan Tree} {next' : String × Token → Scan Tree} :
      (Grammar.word expected >>= next).Excludes (spaced (oneOf comparisons) >>= next') :=
    (excludes_comparisonSign plain).bind
  refine not_null.orElse (null.orElse (within.orElse (like.orElse compare ?_) ?_) ?_) ?_
  · exact .behind fun _ => signs (by decide)
  · exact .orElse (.behind fun _ => words (by decide)) (.behind fun _ => signs (by decide))
  · exact .orElse (.behind fun _ => words (by decide)) (.orElse (.behind fun _ => words (by decide))
      (.behind fun _ => signs (by decide)))
  · exact .orElse (.behind fun _ => .behind fun _ => words (by decide))
      (.orElse (.behind fun _ => words (by decide)) (.orElse (.behind fun _ => words (by decide))
        (.behind fun _ => signs (by decide))))

end Grammar
end SqlEngine
