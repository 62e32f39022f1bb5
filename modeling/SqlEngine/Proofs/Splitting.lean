import SqlEngine.Proofs.Batches
import SqlEngine.Proofs.Productions
import SqlEngine.Proofs.Templates

/-!
# Splitting agrees with parsing

A script is cut at semicolons without a look at the grammar.  A text that the grammar accepts is
closed, so that it is never cut itself: texts of statements that are joined by semicolons come apart
again, and come to what they come to one after the other.
-/

namespace SqlEngine

/-! ## Blanks around a text -/

namespace Text

theorem inert_isBlank : OpenQuote.Inert isBlank :=
  OpenQuote.inert outside_isBlank (by decide)

theorem exists_around_trim (chars : List Char) :
    ∃ front back, (∀ c ∈ front, isBlank c = true) ∧ (∀ c ∈ back, isBlank c = true) ∧
      chars = front ++ trim chars ++ back := by
  refine ⟨chars.takeWhile isBlank, (trimStart chars).rtakeWhile isBlank, ?_, ?_, ?_⟩
  · exact fun c => List.mem_takeWhile_imp
  · exact fun c => List.mem_rtakeWhile_imp
  · rw [List.append_assoc, trim_eq, List.rdropWhile_append_rtakeWhile, trimStart,
      List.takeWhile_append_dropWhile]

end Text

theorem Closed.of_trim {chars : List Char} (closed : Closed (Text.trim chars)) : Closed chars := by
  obtain ⟨front, back, before, behind, split⟩ := Text.exists_around_trim chars
  have blank {blanks : List Char} (all : ∀ c ∈ blanks, Text.isBlank c = true) : Closed blanks :=
    of_forall fun c member => Text.inert_isBlank c (all c member)
  rw [split]
  exact ((blank before).append closed).append (blank behind)

namespace Script

/-! ## Closed texts are not cut -/

theorem pieces_of_quoted {quote : Char} {content rest piece : List Char}
    {others : List (List Char)} (without : quote ∉ content)
    (cut : pieces none rest = piece :: others) :
    pieces (some quote) (content ++ quote :: rest) = (content ++ quote :: piece) :: others := by
  induction content with
  | nil =>
      refine pieces_cons (by simp) ?_
      rwa [OpenQuote.after, if_pos rfl]
  | cons c content induction =>
      obtain ⟨other, without⟩ := List.ne_and_not_mem_of_not_mem_cons without
      refine pieces_cons (by simp) ?_
      rw [OpenQuote.after, if_neg (Ne.symm other)]
      exact induction without

/-- A closed text is a part of one piece. -/
theorem pieces_of_closed {front : List Char} (closed : Closed front) {rest piece : List Char}
    {others : List (List Char)} (cut : pieces none rest = piece :: others) :
    pieces none (front ++ rest) = (front ++ piece) :: others := by
  induction closed with
  | nil => exact cut
  | inert inert _ induction =>
      simp only [OpenQuote.isInert, Bool.and_eq_true, Bool.not_eq_true', bne_iff_ne] at inert
      refine pieces_cons (fun semicolon => inert.2 semicolon.2) ?_
      rw [OpenQuote.after, inert.1]
      exact induction
  | @quoted quote content rest opens without _ induction =>
      have other : quote ≠ ';' := by
        rintro rfl
        contradiction
      have inside : pieces (some quote) (content ++ quote :: (rest ++ _)) = _ :: others :=
        pieces_of_quoted without induction
      simp only [List.cons_append, List.append_assoc]
      refine pieces_cons (fun semicolon => other semicolon.2) ?_
      rwa [OpenQuote.after, opens, if_pos rfl]

/-- Closed texts that are joined by semicolons come apart again. -/
theorem pieces_of_intercalate {parts : List (List Char)} (some : parts ≠ [])
    (closed : ∀ part ∈ parts, Closed part) : pieces none ([';'].intercalate parts) = parts := by
  induction parts with
  | nil => contradiction
  | cons first others induction =>
      obtain ⟨here, there⟩ := List.forall_mem_cons.mp closed
      cases others with
      | nil =>
          have alone : pieces none (first ++ []) = [first ++ []] := pieces_of_closed here rfl
          rw [List.intercalate_singleton]
          rwa [List.append_nil] at alone
      | cons second others =>
          have ends : pieces none (';' :: [';'].intercalate (second :: others)) =
              [] :: second :: others := by
            rw [pieces, if_pos ⟨rfl, rfl⟩, induction (List.cons_ne_nil _ _) there]
          rw [List.intercalate_cons_cons, List.append_assoc, List.singleton_append,
            pieces_of_closed here ends, List.append_nil]

/-- What is accepted as one statement is closed and not blank. -/
theorem closed_of_parseStatement {text : String} {tree : Tree}
    (accepted : parseStatement text = .ok tree) :
    Closed text.toList ∧ Text.trim text.toList ≠ [] := by
  unfold parseStatement ofTrimmed at accepted
  split at accepted
  · contradiction
  · contradiction
  · rename_i found rest read
    obtain ⟨-, front, closed, split⟩ := Grammar.reads_statement read
    simp only [List.isEmpty_iff] at accepted
    split at accepted
    · rename_i blank
      have behind : Closed rest := Closed.of_trim (blank ▸ .nil)
      refine ⟨Closed.of_trim (split ▸ closed.append behind), fun empty => ?_⟩
      rw [empty] at read
      have fails : Grammar.statement [] = .miss := by decide +kernel
      rw [fails] at read
      contradiction
    · contradiction

/-! ## Joined texts -/

/-- Whether pieces are given texts with any number of blank pieces between them. -/
inductive Interspersed : List String → List String → Prop where
  /-- There are no pieces and no texts. -/
  | nil : Interspersed [] []
  /-- The next piece is blank. -/
  | blank {piece : String} {pieces texts : List String} (blank : Text.trim piece.toList = [])
      (others : Interspersed pieces texts) : Interspersed (piece :: pieces) texts
  /-- The next piece is the next text. -/
  | text (text : String) {pieces texts : List String} (others : Interspersed pieces texts) :
      Interspersed (text :: pieces) (text :: texts)

theorem Interspersed.closed {pieces texts : List String} (interspersed : Interspersed pieces texts)
    (closed : ∀ text ∈ texts, Closed text.toList) : ∀ piece ∈ pieces, Closed piece.toList := by
  induction interspersed with
  | nil => simp
  | blank blank _ induction =>
      exact List.forall_mem_cons.mpr ⟨Closed.of_trim (blank ▸ .nil), induction closed⟩
  | text text _ induction =>
      obtain ⟨first, others⟩ := List.forall_mem_cons.mp closed
      exact List.forall_mem_cons.mpr ⟨first, induction others⟩

theorem Interspersed.filter_trim {pieces texts : List String}
    (interspersed : Interspersed pieces texts)
    (filled : ∀ text ∈ texts, Text.trim text.toList ≠ []) :
    ((pieces.map String.toList).map Text.trim).filter (!·.isEmpty) =
      texts.map fun text => Text.trim text.toList := by
  induction interspersed with
  | nil => rfl
  | blank blank _ induction => simpa [blank] using induction filled
  | text text _ induction =>
      obtain ⟨first, others⟩ := List.forall_mem_cons.mp filled
      have rest := induction others
      simp only [List.map_cons, List.filter_cons, rest]
      rw [if_pos (by simpa using first)]

theorem Interspersed.ne_nil {pieces texts : List String}
    (interspersed : Interspersed pieces texts) (some : texts ≠ []) : pieces ≠ [] := by
  rintro rfl
  cases interspersed
  contradiction

/-- Statements that are joined by semicolons are read like the statements alone. -/
theorem parse_intercalate {pieces texts : List String} {trees : List Tree}
    (interspersed : Interspersed pieces texts) (some : texts ≠ [])
    (accepted : List.Forall₂ (fun text tree => parseStatement text = .ok tree) texts trees) :
    parse (";".intercalate pieces) = .ok trees := by
  have all : ∀ text ∈ texts, Closed text.toList ∧ Text.trim text.toList ≠ [] := by
    intro text member
    obtain ⟨tree, -, parsed⟩ := Checked.exists_of_mem_right accepted.flip member
    exact closed_of_parseStatement parsed
  have cut : statements (";".intercalate pieces) = texts.map fun text => Text.trim text.toList := by
    have closed := interspersed.closed fun text member => (all text member).1
    have semicolon : ";".toList = [';'] := rfl
    have some : pieces.map String.toList ≠ [] := by simpa using interspersed.ne_nil some
    rw [← interspersed.filter_trim fun text member => (all text member).2, statements,
      String.toList_intercalate, semicolon,
      pieces_of_intercalate some (List.forall_mem_map.mpr closed)]
  have read : (texts.map fun text => Text.trim text.toList).mapM ofTrimmed = .ok trees :=
    Checked.mapM_eq_ok.mpr (List.forall₂_map_left_iff.mpr accepted)
  obtain ⟨first, others, rfl⟩ := List.exists_cons_of_ne_nil some
  unfold parse
  rw [cut]
  exact read

/-- A text that is accepted as one statement is a script of this statement. -/
theorem parse_of_parseStatement {text : String} {tree : Tree}
    (accepted : parseStatement text = .ok tree) : parse text = .ok [tree] := by
  have alone : parse (";".intercalate [text]) = .ok [tree] :=
    parse_intercalate (.text text .nil) (by simp) (.cons accepted .nil)
  rwa [String.intercalate_singleton] at alone

theorem breaks_of_parseStatement {text : String} {tree : Tree}
    (accepted : parseStatement text = .ok tree) : breaks text = false :=
  breaks_of_parse (parse_of_parseStatement accepted)

end Script

namespace Database

/-- Runs scripts one after the other, each at its own time, up to and including the first that is
told of an error. -/
def untilFailure (database : Database) : List (Timestamp × String) → List Message × Database
  | [] => ([], database)
  | (now, text) :: scripts =>
    let outcome := database.run now text
    match Message.firstFailure outcome.messages with
    | some _ => (outcome.messages, outcome.database)
    | none =>
      let (messages, final) := outcome.database.untilFailure scripts
      (outcome.messages ++ messages, final)

theorem run_of_parseStatement {text : String} {tree : Tree}
    (accepted : Script.parseStatement text = .ok tree) (now : Timestamp) (database : Database) :
    database.run now text = database.runAll now [tree] := by
  rw [run, Script.parse_of_parseStatement accepted]

theorem runAll_eq_untilFailure {now : Timestamp} {scripts : List (Timestamp × String)}
    (timed : ∀ script ∈ scripts, script.1 = now ∨ Script.Timeless script.2) {trees : List Tree}
    (accepted : List.Forall₂ (fun script tree => Script.parseStatement script.2 = .ok tree)
      scripts trees) (database : Database) :
    ((database.runAll now trees).messages, (database.runAll now trees).database) =
      database.untilFailure scripts := by
  induction accepted generalizing database with
  | nil => rfl
  | @cons script tree scripts trees first _ induction =>
      obtain ⟨here, there⟩ := List.forall_mem_cons.mp timed
      have same : database.run script.1 script.2 = database.runAll now [tree] := by
        rw [← run_of_parseStatement first]
        rcases here with rfl | timeless
        · rfl
        · exact run_timeless timeless _ _ database
      rw [untilFailure, same]
      cases executed : database.execute now tree with
      | error error =>
          have calm : error.isCrash = false := by
            have whole := crashes_run script.1 database script.2
            rw [Script.breaks_of_parseStatement first, same, runAll, executed] at whole
            exact whole
          have told : Message.firstFailure (database.runAll now [tree]).messages =
              some error.message := by
            rw [runAll, executed, Outcome.messages_of_reported (Outcome.reported_of_failure rfl calm)]
            exact Reply.firstFailure_append [] [error.toMessage]
          simp only [told]
          simp only [runAll, executed]
      | ok result =>
          have told : Message.firstFailure (database.runAll now [tree]).messages = none := by
            simp only [runAll, executed, Outcome.after]
            exact Reply.firstFailure_append [result.1] []
          have rest := induction there result.2
          simp only [told]
          simp only [runAll, executed, Outcome.after, ← rest, Outcome.messages, Outcome.reported]
          simp

end Database

/-- Texts that are accepted as one statement each, joined by semicolons with any number of blank
pieces between them, are read as these statements, whatever stands between quotes in them.  To run
the joined text comes to the same as to run the texts one after the other, up to and including the
first that is told of an error; a text with the current time in it must be run at the same time. -/
theorem Script.joined_like_apart {pieces texts : List String} {trees : List Tree}
    (interspersed : Interspersed pieces texts) (some : texts ≠ [])
    (accepted : List.Forall₂ (fun text tree => parseStatement text = .ok tree) texts trees) :
    parse (";".intercalate pieces) = .ok trees ∧
      ∀ (database : Database) (now : Timestamp) (scripts : List (Timestamp × String)),
        scripts.map (·.2) = texts →
        (∀ script ∈ scripts, script.1 = now ∨ Timeless script.2) →
        let outcome := database.run now (";".intercalate pieces)
        (outcome.messages, outcome.database) = database.untilFailure scripts := by
  have read : parse (";".intercalate pieces) = .ok trees :=
    parse_intercalate interspersed some accepted
  refine ⟨read, fun database now scripts same timed => ?_⟩
  subst same
  dsimp only
  rw [Database.run, read]
  exact Database.runAll_eq_untilFailure timed (List.forall₂_map_left_iff.mp accepted) database

/-- Semicolons and quotes of another kind in strings and names, with blank pieces around. -/
theorem Script.joined_like_apart_of_odd_texts :
    let now := Date.atMidnight ⟨1970, 1, 1, by decide⟩
    let first := "CREATE TABLE \x22a;'\x60\x22 (\x60;\x22'\x60 TEXT DEFAULT 'it''s; \x22')"
    let second := " INSERT INTO \x22a;'\x60\x22 VALUES (';'''), (NOW()) "
    let joined := ";".intercalate ["", first, " ", "", second, ""]
    let outcome := Database.empty.run now joined
    (∃ trees, parse joined = .ok trees ∧ trees.length = 2) ∧
      (outcome.messages, outcome.database) =
        Database.empty.untilFailure [(now, first), (now, second)] := by
  intro now first second joined outcome
  have interspersed : Interspersed ["", first, " ", "", second, ""] [first, second] :=
    .blank (by decide) (.text first (.blank (by decide) (.blank (by decide)
      (.text second (.blank (by decide) .nil)))))
  have reads : ([first, second].mapM parseStatement).isOk = true := by decide +kernel
  obtain ⟨trees, read⟩ : ∃ trees, [first, second].mapM parseStatement = .ok trees := by
    cases parsed : [first, second].mapM parseStatement with
    | ok trees => exact ⟨trees, rfl⟩
    | error error =>
        rw [parsed] at reads
        contradiction
  have accepted := Checked.mapM_eq_ok.mp read
  obtain ⟨parsed, apart⟩ := joined_like_apart interspersed (by simp) accepted
  refine ⟨⟨trees, parsed, accepted.length_eq.symm⟩, ?_⟩
  exact apart .empty now [(now, first), (now, second)] rfl (by simp)

end SqlEngine
