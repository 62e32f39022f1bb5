import SqlEngine.Prepared
import SqlEngine.Proofs.Characters
import SqlEngine.Proofs.Checked
import SqlEngine.Proofs.VariantTrees
import SqlEngine.Statement.Script

/-!
# Templates

Scripts that come from one template and texts as arguments are variants of each other, as a
placeholder stands outside quotes and its argument takes the place as a whole string.  So they are
cut into statements at the same places, and one of them can be read if and only if the other can.
-/

namespace SqlEngine

/-- Two computations that both succeed, with values in a relation, or both fail. -/
inductive Checked.Together {ε α : Type} (related : α → α → Prop) :
    Except ε α → Except ε α → Prop where
  /-- Both succeed. -/
  | ok {value value' : α} (same : related value value') : Together related (.ok value) (.ok value')
  /-- Both fail. -/
  | error (fault fault' : ε) : Together related (.error fault) (.error fault')

namespace Checked.Together

variable {ε α β : Type} {given : α → α → Prop} {related : β → β → Prop}

theorem bind {first second : Except ε α} {next next' : α → Except ε β}
    (here : Together given first second)
    (there : ∀ value value', given value value' → Together related (next value) (next' value')) :
    Together related (first >>= next) (second >>= next') := by
  cases here with
  | ok same => exact there _ _ same
  | error fault fault' => exact error fault fault'

theorem mapM {check : α → Except ε β}
    (each : ∀ item item', given item item' → Together related (check item) (check item'))
    {items items' : List α} (all : List.Forall₂ given items items') :
    Together (List.Forall₂ related) (items.mapM check) (items'.mapM check) := by
  induction all with
  | nil => exact ok .nil
  | cons first _ induction =>
      rw [List.mapM_cons, List.mapM_cons]
      refine (each _ _ first).bind fun value value' same => ?_
      exact induction.bind fun values values' all => ok (.cons same all)

end Checked.Together

theorem outside_isBlank : OpenQuote.Outside Text.isBlank :=
  OpenQuote.outside (by decide) (by decide) (by decide)

namespace Variants

variable {last quote : OpenQuote} {left right : List Char}

theorem trimStart (variants : Variants last none left right) :
    Variants last none (Text.trimStart left) (Text.trimStart right) := by
  unfold Text.trimStart
  induction left generalizing right with
  | nil =>
      obtain rfl := variants.eq_nil_iff.mp rfl
      exact variants
  | cons c left induction =>
      rcases variants.next with ⟨contra, -⟩ | ⟨d, left, right, split, rfl, others⟩
      · contradiction
      obtain ⟨rfl, rfl⟩ := List.cons.inj split
      by_cases blank : Text.isBlank c = true
      · rw [List.dropWhile_cons_of_pos blank, List.dropWhile_cons_of_pos blank]
        exact induction (others (outside_isBlank.unquoted blank))
      · rw [List.dropWhile_cons_of_neg blank, List.dropWhile_cons_of_neg blank]
        exact variants

theorem rdropWhile (variants : Variants last quote left right) :
    ∃ last, Variants last quote (left.rdropWhile Text.isBlank) (right.rdropWhile Text.isBlank) := by
  induction variants with
  | @done => exact ⟨last, .done⟩
  | @same c quote left right _ induction =>
      obtain ⟨last, others⟩ := induction
      rw [← List.singleton_append, ← List.singleton_append (l := right), Text.rdropWhile_append,
        Text.rdropWhile_append]
      by_cases empty : left.rdropWhile Text.isBlank = []
      · have empty' := others.eq_nil_iff.mp empty
        rw [if_pos empty, if_pos empty']
        rw [empty, empty'] at others
        by_cases blank : Text.isBlank c = true
        · rw [List.rdropWhile_singleton, if_pos blank]
          exact ⟨quote, .done⟩
        · rw [List.rdropWhile_singleton, if_neg blank]
          exact ⟨last, .same c others⟩
      · rw [if_neg empty, if_neg (others.eq_nil_iff.not.mp empty)]
        exact ⟨last, .same c others⟩
  | @string first second left right _ induction =>
      obtain ⟨last, others⟩ := induction
      -- The quote behind a string stops the trimming.
      have kept (content rest : List Char) :
          ('\x27' :: (Text.doubleQuotes content ++ '\x27' :: rest)).rdropWhile Text.isBlank =
            '\x27' :: (Text.doubleQuotes content ++ '\x27' :: rest.rdropWhile Text.isBlank) := by
        have split (rest : List Char) : '\x27' :: (Text.doubleQuotes content ++ '\x27' :: rest) =
            ('\x27' :: Text.doubleQuotes content ++ ['\x27']) ++ rest := by simp
        rw [split, split, Text.rdropWhile_append]
        by_cases empty : rest.rdropWhile Text.isBlank = []
        · rw [if_pos empty, empty, List.append_nil, List.rdropWhile_concat_neg _ _ _ (by decide)]
        · rw [if_neg empty]
      rw [kept, kept]
      exact ⟨last, .string first second others⟩

theorem trim (variants : Variants last none left right) :
    ∃ last, Variants last none (Text.trim left) (Text.trim right) :=
  variants.trimStart.rdropWhile

end Variants

/-! ## Scripts -/

namespace Script

/-- Two pieces of a script that are variants. -/
abbrev SimilarPieces (piece piece' : List Char) : Prop :=
  ∃ last, Variants last none piece piece'

theorem pieces_cons {quote : OpenQuote} {c : Char} {rest piece : List Char}
    {others : List (List Char)} (inside : ¬ (quote = none ∧ c = ';'))
    (cut : pieces (quote.after c) rest = piece :: others) :
    pieces quote (c :: rest) = (c :: piece) :: others := by
  rw [pieces, if_neg inside, cut]

/-- A string is a part of one piece. -/
theorem pieces_of_string (content : List Char) {rest piece : List Char} {others : List (List Char)}
    (cut : pieces none rest = piece :: others) :
    pieces (some '\x27') (Text.doubleQuotes content ++ '\x27' :: rest) =
      (Text.doubleQuotes content ++ '\x27' :: piece) :: others := by
  induction content with
  | nil => exact pieces_cons (by simp) cut
  | cons c content induction =>
      by_cases plain : c = '\x27'
      · subst plain
        simp only [Text.doubleQuotes, if_true, List.cons_append]
        exact pieces_cons (by simp) (pieces_cons (by decide) induction)
      · simp only [Text.doubleQuotes, if_neg plain, List.cons_append]
        refine pieces_cons (by simp) ?_
        rwa [OpenQuote.after, if_neg plain]

/-- Variants are cut at the same places. -/
theorem pieces_of_variants {last quote : OpenQuote} {left right : List Char}
    (variants : Variants last quote left right) :
    ∃ piece piece' others others', pieces quote left = piece :: others ∧
      pieces quote right = piece' :: others' ∧ (∃ last, Variants last quote piece piece') ∧
      List.Forall₂ SimilarPieces others others' := by
  induction variants with
  | done => exact ⟨[], [], [], [], rfl, rfl, ⟨last, .done⟩, .nil⟩
  | @same c quote left right _ induction =>
      obtain ⟨piece, piece', others, others', cut, cut', ⟨end_quote, first⟩, all⟩ := induction
      -- Both texts have the same quote open, so that a semicolon cuts both or none.
      by_cases ends : quote = none ∧ c = ';'
      · obtain ⟨rfl, rfl⟩ := ends
        change pieces none left = _ at cut
        change pieces none right = _ at cut'
        refine ⟨[], [], piece :: others, piece' :: others', ?_, ?_, ⟨none, .done⟩,
          .cons ⟨end_quote, first⟩ all⟩
        · rw [pieces, if_pos ⟨rfl, rfl⟩, cut]
        · rw [pieces, if_pos ⟨rfl, rfl⟩, cut']
      · exact ⟨c :: piece, c :: piece', others, others', pieces_cons ends cut,
          pieces_cons ends cut', ⟨end_quote, .same c first⟩, all⟩
  | string first second _ induction =>
      obtain ⟨piece, piece', others, others', cut, cut', ⟨end_quote, rest⟩, all⟩ := induction
      exact ⟨_, _, others, others', pieces_cons (by decide) (pieces_of_string first cut),
        pieces_cons (by decide) (pieces_of_string second cut'),
        ⟨end_quote, .string first second rest⟩, all⟩

theorem statements_of_variants {last : OpenQuote} {script script' : String}
    (variants : Variants last none script.toList script'.toList) :
    List.Forall₂ SimilarPieces (statements script) (statements script') := by
  obtain ⟨piece, piece', others, others', cut, cut', first, all⟩ := pieces_of_variants variants
  unfold statements
  rw [cut, cut']
  clear cut cut'
  have similar : List.Forall₂ SimilarPieces (piece :: others) (piece' :: others') := .cons first all
  generalize piece :: others = pieces at similar
  generalize piece' :: others' = pieces' at similar
  induction similar with
  | nil => exact .nil
  | @cons piece piece' pieces pieces' first _ induction =>
      obtain ⟨end_quote, trimmed⟩ := first.elim fun _ => Variants.trim
      have empty : (Text.trim piece).isEmpty = (Text.trim piece').isEmpty := by
        rw [Bool.eq_iff_iff, List.isEmpty_iff, List.isEmpty_iff]
        exact trimmed.eq_nil_iff
      simp only [List.map_cons, List.filter_cons, empty]
      split
      · exact .cons ⟨end_quote, trimmed⟩ induction
      · exact induction

theorem ofTrimmed_of_variants {left right : List Char} (similar : SimilarPieces left right) :
    Checked.Together Tree.SameButStrings (ofTrimmed left) (ofTrimmed right) := by
  obtain ⟨last, variants⟩ := similar
  unfold ofTrimmed
  rcases Grammar.agree_statement variants with (⟨misses, misses'⟩ | ⟨breaks, breaks'⟩) |
    ⟨tree, tree', rest, rest', reads, reads', same, others, -⟩
  · rw [misses, misses']
    exact .error _ _
  · rw [breaks, breaks']
    exact .error _ _
  · rw [reads, reads']
    obtain ⟨end_quote, trimmed⟩ := others.trim
    simp only [List.isEmpty_iff]
    by_cases empty : Text.trim rest = []
    · rw [if_pos empty, if_pos (trimmed.eq_nil_iff.mp empty)]
      exact .ok same
    · rw [if_neg empty, if_neg (trimmed.eq_nil_iff.not.mp empty)]
      exact .error _ _

/-- Of two variants of a script, one can be read if and only if the other can, and then the trees
differ only in what their strings contain. -/
theorem parse_of_variants {last : OpenQuote} {script script' : String}
    (variants : Variants last none script.toList script'.toList) :
    Checked.Together (List.Forall₂ Tree.SameButStrings) (parse script) (parse script') := by
  have similar := statements_of_variants variants
  unfold parse
  generalize statements script = pieces at similar
  generalize statements script' = pieces' at similar
  cases similar with
  | nil => exact .error _ _
  | cons first others =>
      dsimp only
      exact Checked.Together.mapM (fun _ _ similar => ofTrimmed_of_variants similar)
        (List.Forall₂.cons first others)

end Script

namespace Prepared

theorem variants_of_fill {first second : List String} (same : first.length = second.length)
    {last : OpenQuote} {left right : List Char} (others : Variants last none left right)
    (argument : Nat) {written : List Char} (plain : ∀ c ∈ written, OpenQuote.opens c = false) :
    Variants last none ((Piece.placeholder argument written).fill (first.map .text) ++ left)
      ((Piece.placeholder argument written).fill (second.map .text) ++ right) := by
  simp only [Piece.fill, List.getElem?_map]
  by_cases given : argument < first.length
  · rw [List.getElem?_eq_getElem given, List.getElem?_eq_getElem (same ▸ given)]
    simp only [Option.map_some, Value.literal, Text.quoted, String.toList_ofList,
      List.cons_append, List.append_assoc, List.nil_append]
    exact .string _ _ others
  · rw [List.getElem?_eq_none (Nat.le_of_not_lt given),
      List.getElem?_eq_none (same ▸ Nat.le_of_not_lt given)]
    simp only [Option.map_none]
    clear given
    induction written with
    | nil => exact others
    | cons c written induction =>
        obtain ⟨here, there⟩ := List.forall_mem_cons.mp plain
        exact (induction there).of_plain here

/-- A template with texts in place of its placeholders, for two lists of texts. -/
theorem variants_of_template {first second : List String} (same : first.length = second.length)
    (quote : OpenQuote) (questions : Nat) (chars : List Char) :
    ∃ last, Variants last quote ((pieces quote questions chars).flatMap (·.fill (first.map .text)))
      ((pieces quote questions chars).flatMap (·.fill (second.map .text))) := by
  fun_induction pieces quote questions chars with
  | case1 quote => exact ⟨quote, .done⟩
  | case2 quote questions c rest question induction =>
      obtain ⟨rfl, rfl⟩ := question
      obtain ⟨last, others⟩ := induction
      have plain : ∀ c ∈ ['?'], OpenQuote.opens c = false :=
        List.forall_iff_forall_mem.mp (by decide)
      exact ⟨last, variants_of_fill same others questions plain⟩
  | case3 quote questions c rest _ dollar argument _ induction =>
      obtain ⟨rfl, rfl⟩ := dollar
      obtain ⟨last, others⟩ := induction
      refine ⟨last, variants_of_fill same others argument (List.forall_mem_cons.mpr ⟨rfl, ?_⟩)⟩
      exact fun c digit => Grammar.outside_isDigit.unquoted (List.mem_takeWhile_imp digit)
  | case4 quote questions c rest _ dollar _ induction =>
      obtain ⟨rfl, rfl⟩ := dollar
      obtain ⟨last, others⟩ := induction
      exact ⟨last, others.of_plain rfl⟩
  | case5 quote questions c rest _ _ induction =>
      obtain ⟨last, others⟩ := induction
      exact ⟨last, .same c others⟩

/-- The statements of a template with texts for its arguments do not depend on the texts, except in
what their strings contain. -/
theorem trees_fixed_by_template (template : String) (first second : List String)
    (first_count : first.length = inputs template)
    (second_count : second.length = inputs template) :
    ∃ script script', bind template (first.map .text) = .ok script ∧
      bind template (second.map .text) = .ok script' ∧
      Checked.Together (List.Forall₂ Tree.SameButStrings) (Script.parse script)
        (Script.parse script') := by
  obtain ⟨last, variants⟩ :=
    variants_of_template (first_count.trans second_count.symm) none 0 template.toList
  refine ⟨substitute template (first.map .text), substitute template (second.map .text), ?_, ?_, ?_⟩
  · rw [bind, List.length_map, if_neg (not_not.mpr first_count)]
  · rw [bind, List.length_map, if_neg (not_not.mpr second_count)]
  · have bound : Variants last none (substitute template (first.map .text)).toList
        (substitute template (second.map .text)).toList := by
      simpa only [substitute, ofTemplate, String.toList_ofList] using variants
    exact Script.parse_of_variants bound

/-- A quote, a semicolon and the start of a comment in an argument change nothing. -/
theorem trees_of_hostile_arguments :
    let template := "SELECT a FROM t WHERE a = ? OR b = 'x'$2; DELETE FROM t WHERE a LIKE $1"
    let first := ["x", "y"]
    let second := ["'; DROP TABLE t; --", "''"]
    first.length = inputs template ∧ second.length = inputs template ∧
      ∃ script script', bind template (first.map .text) = .ok script ∧
        bind template (second.map .text) = .ok script' ∧
        Checked.Together (List.Forall₂ Tree.SameButStrings) (Script.parse script)
          (Script.parse script') := by
  intro template first second
  have count : inputs template = 2 := by decide +kernel
  have first_count : first.length = inputs template := by rw [count]; rfl
  have second_count : second.length = inputs template := by rw [count]; rfl
  exact ⟨first_count, second_count,
    trees_fixed_by_template template first second first_count second_count⟩

end Prepared
end SqlEngine
