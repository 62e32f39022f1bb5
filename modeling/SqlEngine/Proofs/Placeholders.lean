import SqlEngine.Prepared
import SqlEngine.Proofs.Encoding
import SqlEngine.Proofs.Productions
import SqlEngine.Statement.Script

/-!
# Placeholders in the bytes of a template

A template is searched byte by byte, while a script is split character by character.  Both follow
the same quotes: a quote takes one byte, and its byte never stands inside another character.  So the
places that the search finds are those of the placeholders among the characters; they start and end
between characters, outside quotes, and arguments take just their places.
-/

namespace SqlEngine

/-! ## Quotes along a text -/

namespace OpenQuote

/-- The characters of a text, each with the quote that is open in front of it. -/
def along (quote : OpenQuote) : List Char → List (Char × OpenQuote)
  | [] => []
  | c :: rest => (c, quote) :: along (quote.after c) rest

/-- The quote that is open in front of each byte of a text, as a byte. -/
def alongBytes (quote : OpenQuote) (chars : List Char) : List (Option UInt8) :=
  (along quote chars).flatMap fun place =>
    List.replicate place.1.utf8Size (place.2.map Char.toUInt8)

/-- Whether an open quote is one of the characters that open quotes. -/
def IsProper (quote : OpenQuote) : Prop :=
  ∀ opened ∈ quote, opens opened = true

variable {quote : OpenQuote} {c : Char}

theorem isProper_none : IsProper none := by
  rintro _ ⟨⟩

theorem IsProper.after (proper : IsProper quote) : IsProper (quote.after c) := by
  rintro opened found
  cases quote with
  | none =>
      simp only [OpenQuote.after] at found
      split at found
      · cases found
        assumption
      · cases found
  | some open_ =>
      simp only [OpenQuote.after] at found
      split at found
      · cases found
      · exact proper opened found

theorem low_of_opens (quote : opens c = true) : c.toNat < 128 := by
  simp only [opens, Bool.or_eq_true, beq_iff_eq] at quote
  rcases quote with (rfl | rfl) | rfl <;> decide

theorem after_of_high (proper : IsProper quote) (high : 128 ≤ c.toNat) : quote.after c = quote := by
  cases quote with
  | none =>
      rw [OpenQuote.after, if_neg]
      intro opened
      have := low_of_opens opened
      omega
  | some opened =>
      rw [OpenQuote.after, if_neg]
      rintro rfl
      have := low_of_opens (proper c rfl)
      omega

theorem along_append (quote : OpenQuote) (front rest : List Char) :
    along quote (front ++ rest) = along quote front ++ along (front.foldl after quote) rest := by
  induction front generalizing quote with
  | nil => rfl
  | cons c front induction => exact congrArg ((c, quote) :: ·) (induction (quote.after c))

theorem alongBytes_append (quote : OpenQuote) (front rest : List Char) :
    alongBytes quote (front ++ rest) =
      alongBytes quote front ++ alongBytes (front.foldl after quote) rest := by
  rw [alongBytes, along_append, List.flatMap_append]
  rfl

theorem length_alongBytes (quote : OpenQuote) (chars : List Char) :
    (alongBytes quote chars).length = (Text.encode chars).length := by
  induction chars generalizing quote with
  | nil => rfl
  | cons c chars induction =>
      rw [Text.encode_cons, List.length_append, String.length_utf8EncodeChar,
        ← induction (quote.after c)]
      simp [alongBytes, along]

/-- Nothing that opens no quote is between quotes, if it does not start there. -/
theorem alongBytes_of_plain {chars : List Char} (plain : ∀ c ∈ chars, opens c = false) :
    chars.foldl after none = none ∧
      alongBytes none chars = List.replicate (Text.encode chars).length none := by
  induction chars with
  | nil => exact ⟨rfl, rfl⟩
  | cons c chars induction =>
      obtain ⟨here, there⟩ := List.forall_mem_cons.mp plain
      obtain ⟨last, same⟩ := induction there
      have stays : OpenQuote.after none c = none := by rw [OpenQuote.after, here]; rfl
      refine ⟨by rw [List.foldl_cons, stays, last], ?_⟩
      have split : alongBytes none (c :: chars) =
          List.replicate c.utf8Size none ++ alongBytes (OpenQuote.after none c) chars := rfl
      rw [split, stays, same, List.replicate_append_replicate, Text.encode_cons, List.length_append,
        String.length_utf8EncodeChar]

end OpenQuote

/-- A script is cut at the semicolons in front of which no quote is open. -/
theorem Script.pieces_eq_splitOnP (quote : OpenQuote) (chars : List Char) :
    pieces quote chars =
      ((OpenQuote.along quote chars).splitOnP fun place => place.2 = none ∧ place.1 = ';').map
        (·.map Prod.fst) := by
  induction chars generalizing quote with
  | nil => rfl
  | cons c chars induction =>
      rw [OpenQuote.along, List.splitOnP_cons_eq_if_modifyHead, pieces]
      by_cases ends : quote = none ∧ c = ';'
      · obtain ⟨rfl, rfl⟩ := ends
        rw [if_pos ⟨rfl, rfl⟩, if_pos (by simp), induction none]
        rfl
      · rw [if_neg ends, if_neg (by simpa using ends), induction (quote.after c)]
        generalize cut : (OpenQuote.along (quote.after c) chars).splitOnP _ = parts
        cases parts with
        | nil => exact absurd cut (List.splitOnP_ne_nil _ _)
        | cons part parts => rfl

namespace Prepared

open Text

/-! ## The search -/

/-- One step of the search: the quote that is open in front, the bytes that it goes over, from the
one at `start` to the one in front of `stop`, and the argument, if they are a placeholder. -/
structure Turn where
  quote : Option UInt8
  start : Nat
  stop : Nat
  argument : Option Nat

/-- The open quote behind one more byte. -/
def quoteAfter (quote : Option UInt8) (byte : UInt8) : Option UInt8 :=
  match quote with
  | none =>
    if byte = '\x27'.toUInt8 ∨ byte = '\x22'.toUInt8 ∨ byte = '\x60'.toUInt8 then some byte
    else none
  | some opened => if byte = opened then none else some opened

/-- The steps of the search from a place on, given the open quote and the number of question marks so
far. -/
def turns (quote : Option UInt8) (questions start : Nat) : List UInt8 → List Turn
  | [] => []
  | byte :: rest =>
    if quote = none ∧ byte = '?'.toUInt8 then
      ⟨none, start, start + 1, some questions⟩ :: turns none (questions + 1) (start + 1) rest
    else if quote = none ∧ byte = '$'.toUInt8 then
      let digits := rest.takeWhile isDigitByte
      match numbered? (digits.map Char.ofUInt8) with
      | some argument =>
        ⟨none, start, start + 1 + digits.length, some argument⟩ ::
          turns none questions (start + 1 + digits.length) (rest.drop digits.length)
      | none => ⟨none, start, start + 1, none⟩ :: turns none questions (start + 1) rest
    else
      ⟨quote, start, start + 1, none⟩ :: turns (quoteAfter quote byte) questions (start + 1) rest
termination_by bytes => bytes.length
decreasing_by
  all_goals simp only [List.length_cons, List.length_drop]
  all_goals omega

/-- A placeholder in the bytes of a template, from the one at `start` to the one in front of `stop`,
for the argument at a place. -/
structure Placeholder where
  start : Nat
  stop : Nat
  argument : Nat

/-- The placeholder that a step of the search finds, if it finds one. -/
def Turn.placeholder? (turn : Turn) : Option Placeholder :=
  turn.argument.map fun argument => ⟨turn.start, turn.stop, argument⟩

/-- The open quote for each byte that a step of the search goes over. -/
def Turn.quotes (turn : Turn) : List (Option UInt8) :=
  List.replicate (turn.stop - turn.start) turn.quote

/-- The placeholders of a template. -/
def placeholders (template : String) : List Placeholder :=
  (turns none 0 0 (bytes template)).filterMap Turn.placeholder?

/-- The quote that the search has open at each byte of a template. -/
def quotes (template : String) : List (Option UInt8) :=
  (turns none 0 0 (bytes template)).flatMap Turn.quotes

/-- The bytes of a template from a place on, with other bytes in the places of placeholders. -/
def splice (bytes : List UInt8) (copied : Nat) : List (Placeholder × List UInt8) → List UInt8
  | [] => bytes.drop copied
  | (placeholder, literal) :: others =>
    bytes.extract copied placeholder.start ++ literal ++ splice bytes placeholder.stop others

/-- What takes the place of a placeholder: the literal of its argument, or the placeholder itself if
there is no such argument. -/
def Placeholder.replacement (arguments : List Value) (template : List UInt8)
    (placeholder : Placeholder) : List UInt8 :=
  match arguments[placeholder.argument]? with
  | some value => bytes value.literal
  | none => template.extract placeholder.start placeholder.stop

/-! ## Bytes and characters -/

/-- Steps over single bytes that are no placeholders. -/
def plainTurns (quote : Option UInt8) (start : Nat) : Nat → List Turn
  | 0 => []
  | count + 1 => ⟨quote, start, start + 1, none⟩ :: plainTurns quote (start + 1) count

/-- The text of a piece as it is written in the template. -/
def Piece.written : Piece → List Char
  | plain c => [c]
  | placeholder _ written => written

/-- The steps of the search over pieces of a template. -/
def turnsOver (quote : OpenQuote) (start : Nat) : List Piece → List Turn
  | [] => []
  | .plain c :: pieces =>
    plainTurns (quote.map Char.toUInt8) start c.utf8Size ++
      turnsOver (quote.after c) (start + c.utf8Size) pieces
  | .placeholder argument written :: pieces =>
    ⟨none, start, start + (encode written).length, some argument⟩ ::
      turnsOver none (start + (encode written).length) pieces

theorem quoteAfter_of_high {quote : Option UInt8} (low : ∀ opened ∈ quote, opened.toNat < 128)
    {byte : UInt8} (high : 128 ≤ byte.toNat) : quoteAfter quote byte = quote := by
  have other {c : UInt8} (low : c.toNat < 128) : byte ≠ c := by
    rintro rfl
    omega
  cases quote with
  | none =>
      rw [quoteAfter, if_neg]
      rintro (same | same | same) <;> exact other (by decide) same
  | some opened => exact if_neg (other (low opened rfl))

/-- The bytes of a character that takes several are gone over one by one. -/
theorem turns_of_high {quote : Option UInt8} (low : ∀ opened ∈ quote, opened.toNat < 128)
    {front : List UInt8} (high : ∀ byte ∈ front, 128 ≤ byte.toNat) (questions start : Nat)
    (rest : List UInt8) :
    turns quote questions start (front ++ rest) =
      plainTurns quote start front.length ++
        turns quote questions (start + front.length) rest := by
  induction front generalizing start with
  | nil => rfl
  | cons byte front induction =>
      obtain ⟨here, there⟩ := List.forall_mem_cons.mp high
      have other {c : UInt8} (low : c.toNat < 128) : ¬ (quote = none ∧ byte = c) := by
        rintro ⟨-, rfl⟩
        omega
      rw [List.cons_append, turns, if_neg (other (by decide)), if_neg (other (by decide)),
        quoteAfter_of_high low here, induction there (start + 1), List.length_cons, plainTurns,
        List.cons_append, Nat.add_assoc, Nat.add_comm 1]

theorem low_of_isProper {quote : OpenQuote} (proper : quote.IsProper) :
    ∀ opened ∈ quote.map Char.toUInt8, opened.toNat < 128 := by
  intro opened found
  obtain ⟨c, member, rfl⟩ := Option.map_eq_some_iff.mp found
  have low := OpenQuote.low_of_opens (proper c member)
  rwa [toNat_toUInt8 low]

theorem quoteAfter_toUInt8 {quote : OpenQuote} (proper : quote.IsProper) {c : Char}
    (low : c.toNat < 128) :
    quoteAfter (quote.map Char.toUInt8) c.toUInt8 = (quote.after c).map Char.toUInt8 := by
  cases quote with
  | none =>
      simp only [Option.map_none, quoteAfter, OpenQuote.after, OpenQuote.opens, Bool.or_eq_true,
        beq_iff_eq, or_assoc, toUInt8_inj low (by decide : '\x27'.toNat < 128),
        toUInt8_inj low (by decide : '\x22'.toNat < 128),
        toUInt8_inj low (by decide : '\x60'.toNat < 128)]
      split <;> rfl
  | some opened =>
      have low' := OpenQuote.low_of_opens (proper opened rfl)
      simp only [Option.map_some, quoteAfter, OpenQuote.after, toUInt8_inj low low']
      split <;> rfl

/-- To search the bytes of a text comes to the same as to look for pieces among its characters. -/
theorem turns_encode {quote : OpenQuote} (proper : quote.IsProper) (questions start : Nat)
    (chars : List Char) :
    turns (quote.map Char.toUInt8) questions start (encode chars) =
      turnsOver quote start (pieces quote questions chars) := by
  fun_induction pieces quote questions chars generalizing start with
  | case1 => rw [encode_nil, turns, turnsOver]
  | case2 quote questions c rest question induction =>
      obtain ⟨rfl, rfl⟩ := question
      have alone : encode ('?' :: rest) = '?'.toUInt8 :: encode rest := rfl
      rw [alone, turns, if_pos ⟨rfl, rfl⟩, turnsOver]
      exact congrArg _ (induction OpenQuote.isProper_none (start + 1))
  | case3 quote questions c rest _ dollar argument given induction =>
      obtain ⟨rfl, rfl⟩ := dollar
      have alone : encode ('$' :: rest) = '$'.toUInt8 :: encode rest := rfl
      have length : (encode ('$' :: rest.takeWhile Char.isDigit)).length =
          1 + (rest.takeWhile Char.isDigit).length := by
        rw [encode_cons, List.length_append, encode_of_low fun c => low_of_mem_takeWhile,
          List.length_map]
        rfl
      rw [alone, turns, if_neg (by decide), if_pos ⟨rfl, rfl⟩]
      simp only [takeWhile_encode, map_ofUInt8_toUInt8 fun c => low_of_mem_takeWhile, given,
        List.length_map, drop_encode]
      rw [turnsOver, length, Nat.add_assoc]
      exact congrArg _ (induction OpenQuote.isProper_none _)
  | case4 quote questions c rest _ dollar given induction =>
      obtain ⟨rfl, rfl⟩ := dollar
      have alone : encode ('$' :: rest) = '$'.toUInt8 :: encode rest := rfl
      rw [alone, turns, if_neg (by decide), if_pos ⟨rfl, rfl⟩]
      simp only [takeWhile_encode, map_ofUInt8_toUInt8 fun c => low_of_mem_takeWhile, given]
      exact congrArg _ (induction OpenQuote.isProper_none (start + 1))
  | case5 quote questions c rest question dollar induction =>
      rw [turnsOver, ← induction proper.after]
      rcases encoding_cases c with ⟨low, alone⟩ | ⟨high, several⟩
      · have other {special : Char} (low' : special.toNat < 128)
            (plain : ¬ (quote = none ∧ c = special)) :
            ¬ (quote.map Char.toUInt8 = none ∧ c.toUInt8 = special.toUInt8) := by
          rwa [Option.map_eq_none_iff, toUInt8_inj low low']
        have size : c.utf8Size = 1 := by rw [← String.length_utf8EncodeChar, alone]; rfl
        rw [encode_cons, alone, List.singleton_append, turns, if_neg (other (by decide) question),
          if_neg (other (by decide) dollar), quoteAfter_toUInt8 proper low, size]
        rfl
      · rw [encode_cons, turns_of_high (low_of_isProper proper) several,
          String.length_utf8EncodeChar, OpenQuote.after_of_high proper high]

/-- The placeholders among pieces of a template. -/
def placeholdersOver (start : Nat) : List Piece → List Placeholder
  | [] => []
  | .plain c :: pieces => placeholdersOver (start + c.utf8Size) pieces
  | .placeholder argument written :: pieces =>
    ⟨start, start + (encode written).length, argument⟩ ::
      placeholdersOver (start + (encode written).length) pieces

theorem filterMap_plainTurns (quote : Option UInt8) (start count : Nat) :
    (plainTurns quote start count).filterMap Turn.placeholder? = [] := by
  induction count generalizing start with
  | zero => rfl
  | succ count induction => exact induction (start + 1)

theorem flatMap_plainTurns (quote : Option UInt8) (start count : Nat) :
    (plainTurns quote start count).flatMap Turn.quotes = List.replicate count quote := by
  induction count generalizing start with
  | zero => rfl
  | succ count induction =>
      rw [plainTurns, List.flatMap_cons, induction, Turn.quotes, Nat.add_sub_cancel_left]
      rfl

theorem filterMap_turnsOver (quote : OpenQuote) (start : Nat) (pieces : List Piece) :
    (turnsOver quote start pieces).filterMap Turn.placeholder? = placeholdersOver start pieces := by
  induction pieces generalizing quote start with
  | nil => rfl
  | cons piece pieces induction =>
      cases piece with
      | plain c =>
          rw [turnsOver, List.filterMap_append, filterMap_plainTurns, induction]
          rfl
      | placeholder argument written =>
          exact congrArg (_ :: ·) (induction none (start + (encode written).length))

/-- The placeholders found in the bytes of a template are those among its pieces. -/
theorem placeholders_eq_over (template : String) :
    placeholders template = placeholdersOver 0 (ofTemplate template) := by
  have searched := turns_encode OpenQuote.isProper_none 0 0 template.toList
  rw [placeholders, bytes_eq_encode, ofTemplate, ← filterMap_turnsOver none, ← searched]
  rfl

/-! ## What is written for a placeholder -/

/-- Whether a text can be written for a placeholder, as far as quotes and semicolons go. -/
def IsWritten (written : List Char) : Prop :=
  written ≠ [] ∧ ∀ c ∈ written, OpenQuote.isInert c = true

theorem IsWritten.plain {written : List Char} (formed : IsWritten written) :
    ∀ c ∈ written, OpenQuote.opens c = false := by
  intro c member
  have inert := formed.2 c member
  simp only [OpenQuote.isInert, Bool.and_eq_true, Bool.not_eq_true'] at inert
  exact inert.1

theorem isWritten_question : IsWritten ['?'] :=
  ⟨List.cons_ne_nil _ _, List.forall_mem_singleton.mpr rfl⟩

theorem isWritten_dollar (chars : List Char) : IsWritten ('$' :: chars.takeWhile Char.isDigit) := by
  refine ⟨List.cons_ne_nil _ _, List.forall_mem_cons.mpr ⟨rfl, fun c digit => ?_⟩⟩
  exact Grammar.inert_isDigit c (List.mem_takeWhile_imp digit)

theorem flatMap_written (quote : OpenQuote) (questions : Nat) (chars : List Char) :
    (pieces quote questions chars).flatMap Piece.written = chars := by
  fun_induction pieces quote questions chars with
  | case1 => rfl
  | case2 _ _ c rest _ induction => exact congrArg (c :: ·) induction
  | case3 quote questions c rest _ dollar argument given induction =>
      rw [List.flatMap_cons, induction, Piece.written, List.cons_append,
        List.takeWhile_append_dropWhile]
  | case4 _ _ c _ _ _ _ induction => exact congrArg (c :: ·) induction
  | case5 _ _ c _ _ _ induction => exact congrArg (c :: ·) induction

/-- Whether a placeholder divides a text that starts at a place in three: what stands in front of it,
where no quote is open at the end, what is written for it, and what follows. -/
def Divides (quote : OpenQuote) (start : Nat) (chars : List Char) (placeholder : Placeholder) :
    Prop :=
  ∃ front written back, chars = front ++ (written ++ back) ∧
    front.foldl OpenQuote.after quote = none ∧ IsWritten written ∧
    placeholder.start = start + (encode front).length ∧
    placeholder.stop = start + (encode front).length + (encode written).length

theorem divides_of_written {written : List Char} (formed : IsWritten written) (start : Nat)
    (rest : List Char) (argument : Nat) :
    Divides none start (written ++ rest) ⟨start, start + (encode written).length, argument⟩ :=
  ⟨[], written, rest, rfl, rfl, formed, rfl, rfl⟩

theorem Divides.behind {quote : OpenQuote} {start : Nat} (front : List Char) {rest : List Char}
    {placeholder : Placeholder}
    (divides : Divides (front.foldl OpenQuote.after quote) (start + (encode front).length) rest
      placeholder) : Divides quote start (front ++ rest) placeholder := by
  obtain ⟨inner, written, back, rfl, outside, formed, starts, stops⟩ := divides
  refine ⟨front ++ inner, written, back, by rw [List.append_assoc], ?_, formed, ?_, ?_⟩
  · rw [List.foldl_append, outside]
  · rw [starts, encode_append, List.length_append, Nat.add_assoc]
  · rw [stops, encode_append, List.length_append, Nat.add_assoc start]

theorem divides_of_mem {quote : OpenQuote} {questions start : Nat} {chars : List Char}
    {placeholder : Placeholder}
    (member : placeholder ∈ placeholdersOver start (pieces quote questions chars)) :
    Divides quote start chars placeholder := by
  have one (start : Nat) (c : Char) : start + c.utf8Size = start + (encode [c]).length := by
    rw [encode_cons, encode_nil, List.append_nil, String.length_utf8EncodeChar]
  fun_induction pieces quote questions chars generalizing start with
  | case1 => cases member
  | case2 quote questions c rest question induction =>
      obtain ⟨rfl, rfl⟩ := question
      rcases List.mem_cons.mp member with rfl | member
      · exact divides_of_written isWritten_question start rest questions
      · exact Divides.behind ['?'] (induction member)
  | case3 quote questions c rest _ dollar argument given induction =>
      obtain ⟨rfl, rfl⟩ := dollar
      have formed := isWritten_dollar rest
      have split : '$' :: rest =
          '$' :: rest.takeWhile Char.isDigit ++ rest.dropWhile Char.isDigit := by
        rw [List.cons_append, List.takeWhile_append_dropWhile]
      rw [split]
      rcases List.mem_cons.mp member with rfl | member
      · exact divides_of_written formed start _ argument
      · refine Divides.behind _ ?_
        rw [(OpenQuote.alongBytes_of_plain formed.plain).1]
        exact induction member
  | case4 quote questions c rest _ dollar given induction =>
      obtain ⟨rfl, rfl⟩ := dollar
      exact Divides.behind ['$'] (by rw [← one]; exact induction member)
  | case5 quote questions c rest question dollar induction =>
      rw [placeholdersOver, one] at member
      exact Divides.behind [c] (induction member)

/-- The placeholders stand one behind the other. -/
theorem pairwise_placeholdersOver (start : Nat) (pieces : List Piece) :
    (∀ placeholder ∈ placeholdersOver start pieces, start ≤ placeholder.start) ∧
      (placeholdersOver start pieces).Pairwise fun former later => former.stop ≤ later.start := by
  induction pieces generalizing start with
  | nil => exact ⟨List.forall_mem_nil _, .nil⟩
  | cons piece pieces induction =>
      cases piece with
      | plain c =>
          obtain ⟨behind, ordered⟩ := induction (start + c.utf8Size)
          exact ⟨fun placeholder member => Nat.le_trans (Nat.le_add_right ..)
            (behind placeholder member), ordered⟩
      | placeholder argument written =>
          obtain ⟨behind, ordered⟩ := induction (start + (encode written).length)
          refine ⟨List.forall_mem_cons.mpr ⟨Nat.le_refl start, fun placeholder member => ?_⟩,
            .cons behind ordered⟩
          exact Nat.le_trans (Nat.le_add_right ..) (behind placeholder member)

/-- The search has the same quotes open as the splitting of a script. -/
theorem flatMap_turnsOver (quote : OpenQuote) (questions start : Nat) (chars : List Char) :
    (turnsOver quote start (pieces quote questions chars)).flatMap Turn.quotes =
      OpenQuote.alongBytes quote chars := by
  have placeholder {start argument : Nat} {written rest : List Char} {pieces : List Piece}
      (formed : IsWritten written)
      (others : (turnsOver none (start + (encode written).length) pieces).flatMap Turn.quotes =
        OpenQuote.alongBytes none rest) :
      (turnsOver none start (.placeholder argument written :: pieces)).flatMap Turn.quotes =
        OpenQuote.alongBytes none (written ++ rest) := by
    obtain ⟨outside, same⟩ := OpenQuote.alongBytes_of_plain formed.plain
    rw [turnsOver, List.flatMap_cons, others, OpenQuote.alongBytes_append, outside, same,
      Turn.quotes, Nat.add_sub_cancel_left]
  have plain {quote : OpenQuote} {start : Nat} {c : Char} {rest : List Char} {pieces : List Piece}
      (others : (turnsOver (quote.after c) (start + c.utf8Size) pieces).flatMap Turn.quotes =
        OpenQuote.alongBytes (quote.after c) rest) :
      (turnsOver quote start (.plain c :: pieces)).flatMap Turn.quotes =
        OpenQuote.alongBytes quote (c :: rest) := by
    rw [turnsOver, List.flatMap_append, flatMap_plainTurns, others]
    rfl
  fun_induction pieces quote questions chars generalizing start with
  | case1 => rfl
  | case2 quote questions c rest question induction =>
      obtain ⟨rfl, rfl⟩ := question
      exact placeholder isWritten_question (induction _)
  | case3 quote questions c rest _ dollar argument given induction =>
      obtain ⟨rfl, rfl⟩ := dollar
      rw [placeholder (isWritten_dollar rest) (induction _), List.cons_append,
        List.takeWhile_append_dropWhile]
  | case4 quote questions c rest _ dollar given induction =>
      obtain ⟨rfl, rfl⟩ := dollar
      exact plain (induction _)
  | case5 quote questions c rest question dollar induction => exact plain (induction _)

theorem quotes_eq_alongBytes (template : String) :
    quotes template = OpenQuote.alongBytes none template.toList := by
  have searched := turns_encode OpenQuote.isProper_none 0 0 template.toList
  rw [quotes, bytes_eq_encode, ← flatMap_turnsOver none 0 0, ← searched]
  rfl

/-! ## Arguments in the places of placeholders -/

theorem extract_middle (front middle back : List UInt8) :
    (front ++ (middle ++ back)).extract front.length (front.length + middle.length) = middle := by
  rw [List.extract_eq_take_drop, List.drop_left, Nat.add_sub_cancel_left, List.take_left]

/-- What takes the place of a placeholder is what the piece is filled with. -/
theorem replacement_eq_fill (arguments : List Value) (argument : Nat) (written : List Char)
    (front back : List UInt8) :
    Placeholder.replacement arguments (front ++ (encode written ++ back))
        ⟨front.length, front.length + (encode written).length, argument⟩ =
      encode ((Piece.placeholder argument written).fill arguments) := by
  rw [Placeholder.replacement, Piece.fill]
  cases arguments[argument]? with
  | none => exact extract_middle front (encode written) back
  | some value => exact bytes_eq_encode value.literal

/-- To copy what stands between placeholders, with arguments in their places, comes to the same as to
fill the pieces of the template one by one. -/
theorem splice_placeholdersOver (arguments : List Value) {template front gap : List UInt8}
    {pieces : List Piece}
    (split : template = front ++ (gap ++ encode (pieces.flatMap Piece.written))) :
    splice template front.length
      ((placeholdersOver (front.length + gap.length) pieces).map fun placeholder =>
        (placeholder, placeholder.replacement arguments template)) =
      gap ++ encode (pieces.flatMap (·.fill arguments)) := by
  induction pieces generalizing front gap with
  | nil =>
      rw [split]
      simp [placeholdersOver, splice]
  | cons piece pieces induction =>
      cases piece with
      | plain c =>
          have moved : front.length + gap.length + c.utf8Size =
              front.length + (gap ++ encode [c]).length := by
            rw [List.length_append, encode_cons, encode_nil, List.append_nil,
              String.length_utf8EncodeChar, Nat.add_assoc]
          have split' : template =
              front ++ ((gap ++ encode [c]) ++ encode (pieces.flatMap Piece.written)) := by
            rw [split, List.flatMap_cons, encode_append, List.append_assoc gap]
            rfl
          rw [placeholdersOver, moved, induction split', List.flatMap_cons, encode_append,
            List.append_assoc]
          rfl
      | placeholder argument written =>
          have here : template = (front ++ gap) ++
              (encode written ++ encode (pieces.flatMap Piece.written)) := by
            rw [split, List.flatMap_cons, encode_append, List.append_assoc]
            rfl
          have split' : template = (front ++ gap ++ encode written) ++
              ([] ++ encode (pieces.flatMap Piece.written)) := by
            rw [here, List.append_assoc (front ++ gap), List.nil_append]
          have others := induction split'
          have filled := replacement_eq_fill arguments argument written (front ++ gap)
            (encode (pieces.flatMap Piece.written))
          rw [← here] at filled
          simp only [List.length_append, List.length_nil, Nat.add_zero, List.nil_append] at others filled
          rw [placeholdersOver, List.map_cons, splice, others, filled, split, extract_middle,
            List.flatMap_cons, encode_append, List.append_assoc]

/-- A template takes as many arguments as its placeholders ask for. -/
theorem inputs_eq_max (template : String) :
    inputs template =
      ((placeholders template).map fun placeholder => placeholder.argument + 1).max?.getD 0 := by
  have counted (most start : Nat) (pieces : List Piece) :
      (pieces.map Piece.inputs).foldl max most =
        ((placeholdersOver start pieces).map fun placeholder =>
          placeholder.argument + 1).foldl max most := by
    induction pieces generalizing most start with
    | nil => rfl
    | cons piece pieces induction =>
        cases piece with
        | plain c =>
            rw [placeholdersOver, List.map_cons, List.foldl_cons, Piece.inputs, Nat.max_zero]
            exact induction most _
        | placeholder argument written => exact induction (max most (argument + 1)) _
  rw [placeholders_eq_over, inputs, counted 0 0, List.foldl_max, Nat.zero_max]

theorem argument_lt_inputs {template : String} {placeholder : Placeholder}
    (member : placeholder ∈ placeholders template) : placeholder.argument < inputs template := by
  rw [inputs_eq_max]
  exact List.le_max?_getD_of_mem (List.mem_map_of_mem member)

theorem divides_of_mem_placeholders {template : String} {placeholder : Placeholder}
    (member : placeholder ∈ placeholders template) :
    Divides none 0 template.toList placeholder := by
  rw [placeholders_eq_over] at member
  exact divides_of_mem member

/-- What the search for placeholders in a template comes to. -/
structure IsSound (template : String) : Prop where
  /-- The placeholders stand one behind the other. -/
  ordered : (placeholders template).Pairwise fun former later => former.stop ≤ later.start
  /-- Each goes over some bytes of the template, and starts and ends between characters. -/
  within : ∀ placeholder ∈ placeholders template,
    placeholder.start < placeholder.stop ∧ placeholder.stop ≤ (bytes template).length ∧
      (⟨placeholder.start⟩ : String.Pos.Raw).IsValid template ∧
      (⟨placeholder.stop⟩ : String.Pos.Raw).IsValid template
  /-- At each byte, the same quote is open as for the splitting of a script. -/
  quoted : quotes template = OpenQuote.alongBytes none template.toList ∧
    Script.pieces none template.toList =
      ((OpenQuote.along none template.toList).splitOnP fun place =>
        place.2 = none ∧ place.1 = ';').map (·.map Prod.fst)
  /-- No byte of a placeholder is between quotes or a semicolon. -/
  outside : ∀ placeholder ∈ placeholders template, ∀ place, placeholder.start ≤ place →
    place < placeholder.stop →
      (quotes template)[place]? = some none ∧ (bytes template)[place]? ≠ some ';'.toUInt8
  /-- Arguments take the places of placeholders, and all other bytes stay. -/
  substituted : ∀ arguments, bytes (substitute template arguments) =
    splice (bytes template) 0 ((placeholders template).map fun placeholder =>
      (placeholder, placeholder.replacement arguments (bytes template)))
  /-- The template takes as many arguments as its placeholders ask for. -/
  counted : inputs template =
    ((placeholders template).map fun placeholder => placeholder.argument + 1).max?.getD 0
  /-- As many arguments as the template takes leave no placeholder as it is. -/
  replaced : ∀ arguments, arguments.length = inputs template →
    bind template arguments = .ok (substitute template arguments) ∧
      ∀ placeholder ∈ placeholders template, ∃ value,
        arguments[placeholder.argument]? = some value ∧
          placeholder.replacement arguments (bytes template) = bytes value.literal

/-- The placeholders of any template, with any characters and any quotes, are found in order and
apart from each other, between characters and outside the quotes that the splitting of a script
follows.  Arguments take just their places, and if there are as many as the template takes, none of
them stays as it is. -/
theorem isSound_placeholders (template : String) : IsSound template where
  ordered := by
    rw [placeholders_eq_over]
    exact (pairwise_placeholdersOver 0 _).2
  within placeholder member := by
    obtain ⟨front, written, back, split, -, formed, starts, stops⟩ :=
      divides_of_mem_placeholders member
    have filled := List.length_pos_iff.mpr (encode_ne_nil formed.1)
    have length : (bytes template).length =
        (encode front).length + ((encode written).length + (encode back).length) := by
      rw [bytes_eq_encode, split, encode_append, encode_append, List.length_append,
        List.length_append]
    have between : placeholder.stop = (encode (front ++ written)).length := by
      rw [encode_append, List.length_append]
      omega
    refine ⟨by omega, by omega, ?_, ?_⟩
    · rw [starts, Nat.zero_add]
      exact isValid_of_toList split
    · rw [between]
      exact isValid_of_toList (split.trans (List.append_assoc ..).symm)
  quoted := ⟨quotes_eq_alongBytes template, Script.pieces_eq_splitOnP none template.toList⟩
  outside placeholder member place behind before := by
    obtain ⟨front, written, back, split, closed, formed, starts, stops⟩ :=
      divides_of_mem_placeholders member
    obtain ⟨after, plain⟩ := OpenQuote.alongBytes_of_plain formed.plain
    obtain ⟨inside, rfl⟩ : ∃ inside, place = (encode front).length + inside :=
      ⟨place - (encode front).length, by omega⟩
    have short : inside < (encode written).length := by omega
    constructor
    · rw [quotes_eq_alongBytes, split, OpenQuote.alongBytes_append, closed,
        OpenQuote.alongBytes_append, plain, ← OpenQuote.length_alongBytes none front,
        List.getElem?_append_right (Nat.le_add_right ..), Nat.add_sub_cancel_left,
        List.getElem?_append_left (by rwa [List.length_replicate]), List.getElem?_replicate,
        if_pos short]
    · rw [bytes_eq_encode, split, encode_append, encode_append,
        List.getElem?_append_right (Nat.le_add_right ..), Nat.add_sub_cancel_left,
        List.getElem?_append_left short]
      intro found
      have semicolon := mem_of_toUInt8_mem_encode (by decide) (List.mem_of_getElem? found)
      exact absurd (formed.2 _ semicolon) (by decide)
  substituted arguments := by
    have split : bytes template =
        [] ++ ([] ++ encode ((ofTemplate template).flatMap Piece.written)) := by
      rw [ofTemplate, flatMap_written]
      exact bytes_eq_encode template
    have spliced := splice_placeholdersOver arguments split
    rw [substitute, bytes_ofList, placeholders_eq_over]
    exact spliced.symm
  counted := inputs_eq_max template
  replaced arguments enough := by
    refine ⟨by rw [bind, if_neg (not_not.mpr enough)], fun placeholder member => ?_⟩
    have given := argument_lt_inputs member
    rw [← enough] at given
    have found := List.getElem?_eq_getElem given
    exact ⟨arguments[placeholder.argument], found, by rw [Placeholder.replacement, found]⟩

/-- Places are counted in bytes, and what stands between quotes is passed over. -/
example :
    (placeholders "\u00e9 '?' ? $12").map (fun found => (found.start, found.stop, found.argument)) =
      [(7, 8, 0), (9, 12, 11)] := by
  decide +kernel

end Prepared
end SqlEngine
