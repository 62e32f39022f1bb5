import SqlEngine.Grammar.Condition
import SqlEngine.Proofs.Labels
import SqlEngine.Proofs.Letters
import SqlEngine.Proofs.Reading

/-!
# Words, signs, names and literals on paper

The scanners of single marks read these marks, and reject any other.
-/

namespace SqlEngine
namespace Wording

open Grammar Scan

/-! ## The first character of a mark -/

/-- Whether a mark may start with a character. -/
def Mark.mayStart (c : Char) : Mark → Bool
  | .word _ | .bareName _ => isLetter c
  | .sign written => written.chars.head? == some c
  | .name _ => c == '\x22' || c == '\x60'
  | .string _ => c == '\x27'
  | .number _ => c.isDigit || c == '-'

theorem Number.first (number : Number) :
    ∃ c rest, number.chars = c :: rest ∧ (c.isDigit || c == '-') = true := by
  obtain ⟨minus, whole, fraction⟩ := number
  cases minus with
  | true => exact ⟨'-', _, rfl, rfl⟩
  | false =>
      obtain ⟨c, digits, split⟩ := List.exists_cons_of_ne_nil whole.nonempty
      refine ⟨c, _, by simp only [Number.chars, split]; rfl, ?_⟩
      rw [whole.digits c (split ▸ List.mem_cons_self), Bool.true_or]

theorem Mark.Spelled.first {mark : Mark} {chars : List Char} (spelled : mark.Spelled chars) :
    ∃ c rest, chars = c :: rest ∧ mark.mayStart c = true := by
  cases spelled with
  | word nonempty letters _ =>
      obtain ⟨c, rest, rfl⟩ := List.exists_cons_of_ne_nil nonempty
      exact ⟨c, rest, rfl, letters c List.mem_cons_self⟩
  | sign written =>
      cases written with
      | comparison kind => cases kind <;> exact ⟨_, _, rfl, rfl⟩
      | _ => exact ⟨_, _, rfl, rfl⟩
  | quoted => exact ⟨_, _, rfl, rfl⟩
  | backQuoted => exact ⟨_, _, rfl, rfl⟩
  | bareName written => exact ⟨_, _, rfl, written.starts⟩
  | string => exact ⟨_, _, rfl, rfl⟩
  | number written => exact written.first

/-! ## Words -/

/-- Whether a mark is another word, or no word at all. -/
def Mark.isOther (expected : String) : Mark → Bool
  | .word other => caseless other.toList != caseless expected.toList
  | .bareName _ => false
  | _ => true

/-- Whether marks do not start with a word. -/
def lacksWord (expected : String) (marks : List Mark) : Bool :=
  isPlain expected && marks.head?.all (·.isOther expected)

theorem notNext_of_apart {test : Char → Bool} {rest : List Char}
    (apart : ∀ c ∈ rest.head?, test c = false) : notNext test rest = .done ((), rest) := by
  cases rest with
  | nil => rfl
  | cons c rest =>
      have fails : test c = false := apart c rfl
      simp [notNext, fails]

/-- What does not start with a letter is no word. -/
theorem letters_of_first {expected : String} (plain : isPlain expected = true) {chars : List Char}
    (first : ∀ c ∈ chars.head?, isLetter (small c) = false) : letters expected chars = .miss := by
  refine letters_of_head plain fun letter head c head' same => ?_
  have expects := isLetter_small (letters_plain plain letter (List.mem_of_mem_head? head))
  rw [same, first c head'] at expects
  contradiction

/-- A word is not read off another word: it ends where a mark ends. -/
theorem letters_of_other {expected other : String} (plain : isPlain expected = true)
    (differ : caseless other.toList ≠ caseless expected.toList) {chars rest : List Char}
    (letter : ∀ c ∈ chars, isLetter c = true) (same : caseless chars = caseless other.toList)
    (apart : ∀ c ∈ rest.head?, isNameChar c = false) :
    (do
      let lexeme ← letters expected
      notNext isNameChar
      return lexeme) (chars ++ rest) = .miss := by
  have all := letters_plain plain
  have nameChar {c : Char} (is_letter : isLetter c = true) : isNameChar c = true :=
    (Text.isNameChar_of_plain (Text.plain_of_letter is_letter)).1
  by_cases agree : agrees expected.toList (chars ++ rest) = true
  case neg => exact bind_of_miss (if_neg agree)
  -- A shorter word is followed by a letter of the mark, a longer one would go on behind it.
  rcases cases_of_agrees all letter agree with
    ⟨front, more, rfl, whole⟩ | ⟨here, next, more, split, front, onward⟩
  · rw [List.append_assoc, bind_of_done (letters_append all whole (more ++ rest))]
    refine bind_of_miss ?_
    cases more with
    | nil =>
        rw [List.append_nil] at same
        exact absurd (same.symm.trans whole) differ
    | cons c more =>
        have is_letter := letter c (List.mem_append_right front List.mem_cons_self)
        simp [notNext, nameChar is_letter]
  · cases rest with
    | nil =>
        have length : here.length = chars.length := by
          simpa [caseless] using congrArg List.length front
        rw [List.append_nil]
        refine bind_of_miss (letters_of_short plain letter ?_)
        rw [split, List.length_append, List.length_cons]
        omega
    | cons c rest =>
        have expects : isLetter next = true := all next (by simp [split])
        have ends : isNameChar c = false := apart c rfl
        have goes_on : isNameChar c = true := by
          rcases letter_of_small_eq expects (agrees_cons.mp onward).1 with ⟨is_letter, -⟩ | ⟨rfl, -⟩
          · exact nameChar is_letter
          · decide +kernel
        exact absurd (goes_on.symm.trans ends) (by decide)

/-- Whether a mark is a word or a name without quotes. -/
def Mark.isLettered : Mark → Bool
  | .word _ | .bareName _ => true
  | _ => false

theorem Mark.not_isLetter_of_first {mark : Mark} (other : mark.isLettered = false) {c : Char}
    (starts : mark.mayStart c = true) : isLetter (small c) = false := by
  cases mark with
  | word | bareName => contradiction
  | sign written =>
      have starts : written.chars.head? = some c := by simpa [Mark.mayStart] using starts
      cases written with
      | comparison kind => cases kind <;> obtain rfl := Option.some.inj starts <;> decide
      | _ => obtain rfl := Option.some.inj starts; decide
  | name =>
      rcases Bool.or_eq_true _ _ ▸ starts with same | same <;> rw [beq_iff_eq.mp same] <;> decide
  | string => rw [beq_iff_eq.mp starts]; decide
  | number =>
      rcases Bool.or_eq_true _ _ ▸ starts with digit | same
      · exact not_isLetter_small_of_digit digit
      · rw [beq_iff_eq.mp same]
        decide

theorem letters_of_not_lettered {expected : String} (plain : isPlain expected = true) {mark : Mark}
    (other : mark.isLettered = false) {chars : List Char} (spelled : mark.Spelled chars)
    (rest : List Char) : letters expected (chars ++ rest) = .miss := by
  obtain ⟨c, front, rfl, starts⟩ := spelled.first
  refine letters_of_first plain fun d first => ?_
  obtain rfl := Option.some.inj first
  exact Mark.not_isLetter_of_first other starts

theorem rejects_word {expected : String} {marks : List Mark}
    (lacks : lacksWord expected marks = true) : Rejects (word expected) marks := by
  obtain ⟨plain, first⟩ := Bool.and_eq_true_iff.mp lacks
  refine (rejectsFrom_tight ?_ fun mark head chars rest spelled apart => ?_).spaced
  · exact bind_of_miss (letters_of_first plain fun _ contra => nomatch contra)
  · rw [Option.mem_def.mp head] at first
    cases mark with
    | word other =>
        cases spelled with
        | word _ letters same =>
            exact letters_of_other plain (bne_iff_ne.mp first) letters same apart
    | bareName => contradiction
    | _ => exact bind_of_miss (letters_of_not_lettered plain rfl spelled rest)

theorem rejects_wordNode {token : Token} {expected : String} {marks : List Mark}
    (lacks : lacksWord expected marks = true) : Rejects (wordNode token expected) marks :=
  (rejects_word lacks).bind

/-- An alternative that starts with another word is passed over. -/
theorem ReadsFrom.past {α : Type} {start : List Char → Prop} {expected : String}
    {step : String → Scan α} {second : Scan α} {marks : List Mark} {meaning : α → Prop}
    {next : List Mark → Prop} (lacks : ∀ others, lacksWord expected (marks ++ others) = true)
    (there : ReadsFrom start second marks meaning next) :
    ReadsFrom start ((word expected >>= step) <|> second) marks meaning next :=
  .orElse_right (fun others _ => (RejectsFrom.of_rejects (rejects_word (lacks others))).bind) there

theorem reads_letters (expected : String) :
    ReadsFrom Tight (letters expected) [.word expected] (fun _ => True) AnyMarks :=
  readsFrom_tight fun chars rest spelled _ => by
    cases spelled with
    | word _ plain same =>
        exact ⟨String.ofList chars,
          letters_append (isLetter_of_caseless plain same.symm) same rest, trivial⟩

/-- A word is read in any case. -/
theorem reads_word (expected : String) :
    Reads (word expected) [.word expected] (fun _ => True) AnyMarks := by
  refine (readsFrom_tight fun chars rest spelled apart => ?_).spaced
  cases spelled with
  | word _ plain same =>
      have read : letters expected (chars ++ rest) = .done (String.ofList chars, rest) :=
        letters_append (isLetter_of_caseless plain same.symm) same rest
      have ends : notNext isNameChar rest = .done ((), rest) := notNext_of_apart apart
      exact ⟨String.ofList chars, (bind_of_done read).trans (bind_of_done ends), trivial⟩

theorem reads_wordNode (token : Token) (expected : String) :
    Reads (wordNode token expected) [.word expected]
      (fun tree => ∃ lexeme, tree = { token, lexeme }) AnyMarks :=
  (reads_word expected).map fun lexeme _ => ⟨lexeme, rfl⟩

/-- A word is read as a node, whatever its spelling. -/
theorem reads_spelled {token : Token} (spelled : token.isSpelled = true)
    (expected lexeme : String) :
    Reads (wordNode token expected) [.word expected]
      (Tree.SameButSpelling · { token, lexeme }) AnyMarks := by
  refine (reads_wordNode token expected).mono ?_ fun _ behind => behind
  rintro _ ⟨lexeme, rfl⟩
  simp [Tree.SameButSpelling, spelled]

/-! ## Signs -/

/-- Whether marks cannot start with a character. -/
def lacksSign (expected : Char) (marks : List Mark) : Bool :=
  marks.head?.all fun mark => !mark.mayStart expected

theorem rejects_char {expected : Char} {marks : List Mark}
    (lacks : lacksSign expected marks = true) : RejectsFrom Tight (Scan.char expected) marks := by
  refine rejectsFrom_tight rfl fun mark head chars rest spelled _ => ?_
  rw [lacksSign, Option.mem_def.mp head, Option.all_some, Bool.not_eq_true'] at lacks
  obtain ⟨c, front, rfl, starts⟩ := spelled.first
  refine char_of_ne ?_ (front ++ rest)
  rintro rfl
  rw [lacks] at starts
  contradiction

theorem rejects_sign {expected : Char} {marks : List Mark}
    (lacks : lacksSign expected marks = true) : Rejects (sign expected) marks :=
  (rejects_char lacks).spaced

theorem reads_sign {expected : Char} {written : Sign} (alone : written.chars = [expected]) :
    Reads (sign expected) [.sign written] (fun _ => True) AnyMarks := by
  refine (readsFrom_tight fun chars rest spelled _ => ?_).spaced
  cases spelled with
  | sign =>
      rw [alone]
      exact ⟨(), char_self expected rest, trivial⟩

theorem reads_listed {α β : Type} {item : Scan α} {write : β → List Mark} {related : α → β → Prop}
    {items : Several β} {inner : List Mark → Prop}
    (each : ∀ value ∈ items.toList, Reads item (write value) (related · value) inner)
    (again : ∀ others, inner (.sign .comma :: others)) :
    Reads (Grammar.listed item) (listed write items)
      (fun found => List.Forall₂ related found items.toList)
      fun others => inner others ∧ lacksSign ',' others = true :=
  .sepBy1 each (reads_sign rfl) again (fun _ behind => behind.1) fun _ behind =>
    rejects_sign behind.2

theorem reads_bracketed {α : Type} {item : Scan α} {marks : List Mark} {meaning : α → Prop}
    {next : List Mark → Prop} (reads : Reads item marks meaning next)
    (closes : ∀ others, next (.sign .closing :: others)) :
    Reads (Grammar.bracketed item) (bracketed marks) meaning AnyMarks :=
  (reads_sign rfl).cons fun _ _ => reads.bindBefore
    (fun _ means => (reads_sign rfl).map fun _ _ => means) fun _ _ => closes _

/-! ## Names -/

theorem nameWithin_append {quote : Char} {content : List Char} (plain : quote ∉ content)
    (rest : List Char) :
    nameWithin quote (quote :: (content ++ [quote]) ++ rest) =
      .done (String.ofList content, rest) := by
  have inside : ∀ c ∈ content, (c != quote) = true := by
    intro c member
    refine bne_iff_ne.mpr ?_
    rintro rfl
    exact plain member
  have ends : ∀ c ∈ (quote :: rest).head?, (c != quote) = false := by
    rintro c ⟨⟩
    simp
  have within : span (· != quote) (content ++ [quote] ++ rest) = .done (content, quote :: rest) := by
    rw [List.append_assoc]
    exact span_append inside ends
  exact (bind_of_done (char_self quote _)).trans
    ((bind_of_done within).trans (bind_of_done (char_self quote rest)))

theorem nameWithin_of_first {quote c : Char} (other : c ≠ quote) (rest : List Char) :
    nameWithin quote (c :: rest) = .miss :=
  bind_of_miss (char_of_ne other rest)

/-- A name is read between quotes of either kind. -/
theorem reads_name (written : Name) :
    Reads name [.name written] (· = written.text) AnyMarks := by
  refine (readsFrom_tight fun chars rest spelled _ => ?_).spaced
  cases spelled with
  | quoted plain => exact ⟨written.text, orElse_of_done (nameWithin_append plain rest), rfl⟩
  | backQuoted plain =>
      have other : '\x60' ≠ '\x22' := by decide
      exact ⟨written.text, (orElse_of_miss (nameWithin_of_first other _)).trans
        (orElse_of_done (nameWithin_append plain rest)), rfl⟩

theorem reads_nameNode (written : Name) :
    Reads nameNode written.marks (· = written.tree) AnyMarks :=
  (reads_name written).map fun _ same => by rw [same]; rfl

/-- A name without quotes is read up to its end. -/
theorem reads_bareName (written : BareName) :
    Reads name [.bareName written] (· = String.ofList written.chars) AnyMarks := by
  refine (readsFrom_tight fun chars rest spelled apart => ?_).spaced
  cases spelled with
  | bareName =>
      have unquoted {quote : Char} (sign : isLetter quote = false) :
          nameWithin quote (written.chars ++ rest) = .miss := by
        refine nameWithin_of_first ?_ _
        rintro rfl
        exact absurd (sign.symm.trans written.starts) (by decide)
      have first : satisfy (fun c => c.isAlpha || c == '_') (written.chars ++ rest) =
          .done (written.first, written.others ++ rest) :=
        satisfy_eq_done.mpr ⟨rfl, written.starts⟩
      have others : span isNameChar (written.others ++ rest) = .done (written.others, rest) :=
        span_append
          (fun c member => (Text.isNameChar_of_plain (written.continues c member)).1) apart
      refine ⟨String.ofList written.chars, ?_, rfl⟩
      rw [orElse_of_miss (unquoted (by decide)), orElse_of_miss (unquoted (by decide))]
      unfold bareName
      rw [bind_of_done first, bind_of_done others]
      simp only [written.free, Bool.false_eq_true, if_false]
      rfl

theorem reads_typeName (written : TypeName) :
    Reads name written.marks (· = written.text) AnyMarks := by
  cases written with
  | quoted name => exact reads_name name
  | bare name => exact reads_bareName name

/-! ## Numbers and strings -/

theorem Digits.span1_append (digits : Digits) {rest : List Char}
    (stops : ∀ c ∈ rest.head?, c.isDigit = false) :
    span1 Char.isDigit (digits.chars ++ rest) = .done (digits.chars, rest) :=
  Scan.span1_append digits.nonempty digits.digits stops

theorem reads_digits (written : Digits) :
    Reads (spaced digits) written.marks (· = String.ofList written.chars) AnyMarks := by
  refine (readsFrom_tight fun chars rest spelled apart => ?_).spaced
  cases spelled with
  | number =>
      have split : Number.chars ⟨false, written, none⟩ = written.chars := by simp [Number.chars]
      rw [split]
      refine ⟨String.ofList written.chars, bind_of_done (written.span1_append ?_), rfl⟩
      exact fun c first => (Bool.or_eq_false_iff.mp (apart c first)).1

/-- A minus sign is read if there is one. -/
theorem minus_append (minus : Bool) {c : Char} (digit : c.isDigit = true) (rest : List Char) :
    ((Scan.char '-' *> pure ['-']) <|> pure [] : Scan (List Char))
        ((if minus then ['-'] else []) ++ c :: rest) =
      .done (if minus then ['-'] else [], c :: rest) := by
  cases minus with
  | true => rfl
  | false =>
      refine orElse_of_miss (bind_of_miss (char_of_ne ?_ rest))
      rintro rfl
      contradiction

/-- A fraction is read if there is one. -/
theorem fraction_append (places : Option Digits) {rest : List Char}
    (apart : ∀ c ∈ rest.head?, (c.isDigit || c == '.') = false) :
    (fraction <|> pure []) ((places.elim [] fun places => '.' :: places.chars) ++ rest) =
      .done (places.elim [] fun places => '.' :: places.chars, rest) := by
  cases places with
  | none =>
      refine orElse_of_miss (bind_of_miss ?_)
      cases rest with
      | nil => rfl
      | cons c rest =>
          refine char_of_ne ?_ rest
          rintro rfl
          exact absurd (apart '.' rfl) (by decide)
  | some places =>
      have digits := places.span1_append fun c first => (Bool.or_eq_false_iff.mp (apart c first)).1
      exact orElse_of_done ((bind_of_done (char_self '.' _)).trans (bind_of_done digits))

theorem reads_number (written : Number) :
    ReadsFrom Tight number [.number written] (· = String.ofList written.chars) AnyMarks := by
  refine readsFrom_tight fun chars rest spelled apart => ?_
  cases spelled with
  | number =>
      obtain ⟨minus, whole, places⟩ := written
      obtain ⟨c, digits, split⟩ := List.exists_cons_of_ne_nil whole.nonempty
      have digit := whole.digits c (split ▸ List.mem_cons_self)
      have no_digit : ∀ c ∈ ((places.elim [] fun places => '.' :: places.chars) ++ rest).head?,
          c.isDigit = false := by
        cases places with
        | none => exact fun c first => (Bool.or_eq_false_iff.mp (apart c first)).1
        | some places =>
            rintro c ⟨⟩
            decide
      have whole_read := whole.span1_append no_digit
      have minus_read := minus_append minus digit
        (digits ++ ((places.elim [] fun places => '.' :: places.chars) ++ rest))
      rw [← List.cons_append, ← split] at minus_read
      refine ⟨_, ?_, rfl⟩
      rw [Number.chars, List.append_assoc, List.append_assoc, number, bind_of_done minus_read,
        bind_of_done whole_read, bind_of_done (fraction_append places apart)]
      rfl

theorem stringLiteral_append {content rest : List Char} (single : rest.head? ≠ some '\x27') :
    stringLiteral ('\x27' :: (Text.doubleQuotes content ++ ['\x27']) ++ rest) =
      .done (String.ofList content, rest) := by
  have read :
      stringRest (Text.doubleQuotes content ++ ['\x27'] ++ rest) = some (content, rest) := by
    rw [List.append_assoc, stringRest_doubleQuotes, List.singleton_append, stringRest_of_end single,
      Option.map_some, List.append_nil]
  refine (bind_of_done (char_self '\x27' _)).trans (bind_of_done ?_)
  exact congrArg Attempt.ofOption read

theorem reads_stringLiteral (content : List Char) :
    ReadsFrom Tight stringLiteral [.string content] (· = String.ofList content) AnyMarks := by
  refine readsFrom_tight fun chars rest spelled apart => ?_
  cases spelled with
  | string =>
      refine ⟨String.ofList content, stringLiteral_append fun quote => ?_, rfl⟩
      have single : ('\x27' == '\x27') = false := apart '\x27' quote
      contradiction

theorem rejects_stringLiteral {marks : List Mark} (lacks : lacksSign '\x27' marks = true) :
    RejectsFrom Tight stringLiteral marks :=
  (rejects_char lacks).bind

/-! ## Comparisons -/

theorem oneOf_of_none {text : String} {token : Token} {others : List (String × Token)}
    {chars : List Char} (fails : strip? (· == ·) text.toList chars = none) :
    oneOf ((text, token) :: others) chars = oneOf others chars := by
  refine orElse_of_miss (bind_of_miss ?_)
  rw [exactly, fails]
  rfl

theorem reads_comparison (kind : Comparison) :
    Reads (spaced (oneOf comparisons)) [.sign (.comparison kind)] (· = (kind.text, kind.token))
      AnyMarks := by
  refine (readsFrom_tight fun chars rest spelled apart => ?_).spaced
  cases spelled with
  | sign =>
      refine ⟨(kind.text, kind.token), ?_, rfl⟩
      cases rest with
      | nil => cases kind <;> rfl
      | cons c rest =>
          have next := apart c rfl
          -- Only the two short signs are the front of a longer one.
          cases kind with
          | less =>
              obtain ⟨equal, greater⟩ := Bool.or_eq_false_iff.mp next
              rw [BEq.comm] at equal greater
              rw [comparisons, oneOf_of_none rfl,
                oneOf_of_none (by simp [strip?, Sign.chars, Comparison.text, equal]),
                oneOf_of_none rfl,
                oneOf_of_none (by simp [strip?, Sign.chars, Comparison.text, greater])]
              rfl
          | greater =>
              have equal : ('=' == c) = false := BEq.comm.trans next
              rw [comparisons, oneOf_of_none (by simp [strip?, Sign.chars, Comparison.text, equal])]
              rfl
          | _ => rfl

/-! ## Literals -/

/-- The brackets of a call may have blanks between them. -/
theorem reads_brackets :
    Reads (sign '(' *> Scan.char ')') (bracketed []) (fun _ => True) AnyMarks := by
  intro others text _ _ written
  obtain ⟨_, rest, split, opening, -, behind, shorter⟩ := written.uncons
  obtain ⟨_, left, split', closing, -, behind, shorter'⟩ := behind.uncons
  cases opening
  cases closing
  have open_read : sign '(' text = .done ((), ')' :: left) := by
    rw [sign, spaced_eq, split]
    exact congrArg (fun rest => Attempt.done ((), rest)) split'
  refine ⟨(), left, (bind_of_done open_read).trans (char_self ')' left), trivial, behind, ?_⟩
  simp only [bracketed, List.nil_append, List.length_cons, List.length_nil]
  omega

theorem call_assoc : (letters "NOW" *> sign '(' *> Scan.char ')') =
    letters "NOW" *> (sign '(' *> Scan.char ')') :=
  bind_assoc (letters "NOW") (fun _ => sign '(') fun _ => Scan.char ')'

theorem rejects_call {marks : List Mark} (rejects : RejectsFrom Tight (letters "NOW") marks) :
    RejectsFrom Tight (Scan.consumed (letters "NOW" *> sign '(' *> Scan.char ')')) marks := by
  rw [call_assoc]
  exact rejects.bind.consumed

theorem reads_currentTime (called : Bool) :
    ReadsFrom Tight currentTime (Literal.now called).marks (fun _ => True) AnyMarks := by
  cases called with
  | true =>
      have reads : ReadsFrom Tight (letters "NOW" *> (sign '(' *> Scan.char ')'))
          (Literal.now true).marks (fun _ => True) AnyMarks :=
        (reads_letters "NOW").seqRight reads_brackets
      rw [← call_assoc] at reads
      exact .orElse_left reads.consumed
  | false =>
      refine .orElse_right (fun _ _ => rejects_call (rejectsFrom_tight rfl ?_))
        (reads_letters "CURRENT_TIMESTAMP")
      rintro _ ⟨⟩ chars rest spelled -
      cases spelled with
      | word nonempty letters same =>
          obtain ⟨c, chars, rfl⟩ := List.exists_cons_of_ne_nil nonempty
          have first : c.toLower = 'c' := (List.cons.inj same).1
          refine letters_of_head (by decide) ?_
          rintro _ ⟨⟩ _ ⟨⟩
          rw [small_of_letter (letters c List.mem_cons_self), first]
          decide

theorem rejects_letters {expected : String} (plain : isPlain expected = true) {mark : Mark}
    (other : mark.isLettered = false) (others : List Mark) :
    RejectsFrom Tight (letters expected) (mark :: others) := by
  refine rejectsFrom_tight (letters_of_first plain fun _ contra => nomatch contra) ?_
  rintro _ ⟨⟩ chars rest spelled -
  exact letters_of_not_lettered plain other spelled rest

theorem rejects_currentTime {mark : Mark} (other : mark.isLettered = false) (others : List Mark) :
    RejectsFrom Tight currentTime (mark :: others) :=
  (rejects_call (rejects_letters rfl other others)).orElse (rejects_letters rfl other others)

/-- A literal is read as it is meant. -/
theorem reads_literal (written : Literal) :
    Reads literal written.marks (Tree.SameButSpelling · written.tree) AnyMarks := by
  have other {token : Token} {expected : String} {marks others : List Mark}
      (lacks : lacksWord expected (marks ++ others) = true) :
      RejectsFrom Tight (wordNode token expected) (marks ++ others) :=
    .of_rejects (rejects_wordNode lacks)
  refine ReadsFrom.spaced ?_
  cases written with
  | null => exact .orElse_left (.of_reads (reads_spelled rfl "NULL" _))
  | boolean truth =>
      cases truth with
      | true =>
          refine .orElse_right (fun _ _ => other rfl) ?_
          exact .orElse_left (.of_reads (reads_spelled rfl "TRUE" _))
      | false =>
          refine .orElse_right (fun _ _ => other rfl) (.orElse_right (fun _ _ => other rfl) ?_)
          exact .orElse_left (.of_reads (reads_spelled rfl "FALSE" _))
  | now called =>
      refine .orElse_right (fun _ _ => other (by cases called <;> rfl)) ?_
      refine .orElse_right (fun _ _ => other (by cases called <;> rfl)) ?_
      refine .orElse_right (fun _ _ => other (by cases called <;> rfl)) (.orElse_left ?_)
      refine (reads_currentTime called).map fun lexeme _ => ?_
      simp [Tree.SameButSpelling, Literal.tree, Token.isSpelled]
  | string content =>
      refine .orElse_right (fun _ _ => other rfl) (.orElse_right (fun _ _ => other rfl) ?_)
      refine .orElse_right (fun _ _ => other rfl) ?_
      refine .orElse_right (fun _ _ => (rejects_currentTime rfl _).bind) (.orElse_left ?_)
      exact (reads_stringLiteral content).map fun _ same => by rw [same]; rfl
  | number written =>
      refine .orElse_right (fun _ _ => other rfl) (.orElse_right (fun _ _ => other rfl) ?_)
      refine .orElse_right (fun _ _ => other rfl) ?_
      refine .orElse_right (fun _ _ => (rejects_currentTime rfl _).bind) ?_
      refine .orElse_right (fun _ _ => (rejects_stringLiteral ?_).bind) ?_
      · rfl
      · exact (reads_number written).map fun _ same => by rw [same]; rfl

end Wording
end SqlEngine
