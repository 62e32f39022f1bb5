import SqlEngine.Proofs.Checked
import SqlEngine.Proofs.Enclosed
import SqlEngine.Proofs.Shapes
import SqlEngine.Proofs.VariantTrees
import SqlEngine.Statement.Script

/-!
# What the grammar reads

Every production of the grammar reads a closed text and gives a tree of its shape.
-/

namespace SqlEngine
namespace Grammar

open Scan SqlEngine.Tree
open Wording (isPlain letters_plain)

variable {α : Type} {good : α → Prop}

/-! ## Words, names and signs -/

theorem inert_isSpace : OpenQuote.Inert isSpace :=
  OpenQuote.inert outside_isSpace rfl

theorem inert_isNameChar : OpenQuote.Inert isNameChar :=
  OpenQuote.inert outside_isNameChar (by decide)

theorem inert_isDigit : OpenQuote.Inert Char.isDigit :=
  OpenQuote.inert outside_isDigit rfl

theorem inert_isLetter : OpenQuote.Inert isLetter :=
  OpenQuote.inert (OpenQuote.outside rfl rfl rfl) rfl

theorem inert_small : OpenQuote.Inert fun c => isLetter (small c) :=
  OpenQuote.inert (OpenQuote.outside rfl rfl rfl) rfl

theorem reads_spaced {item : Scan α} (reads : Reads good item) : Reads good (spaced item) :=
  (reads_span inert_isSpace).bind fun _ _ => reads.bind fun _ holds =>
    (reads_span inert_isSpace).bind fun _ _ => reads_pure holds

theorem reads_letters {expected : String} (plain : isPlain expected = true) :
    Reads (fun _ => True) (letters expected) := by
  intro chars lexeme rest read
  have plain := letters_plain plain
  obtain ⟨front, agree, cut, -⟩ := Wording.agrees_of_letters read
  refine ⟨trivial, front, Closed.of_forall fun c member => ?_, Wording.eq_append_of_bytes cut⟩
  have short := Nat.le_of_eq (Wording.utf8ByteSize_of_letters plain)
  exact inert_small c (Wording.isLetter_small_of_bytes plain agree short cut c member)

theorem reads_word {expected : String} (plain : isPlain expected = true) :
    Reads (fun _ => True) (word expected) :=
  reads_spaced ((reads_letters plain).bind fun _ _ =>
    (reads_notNext isNameChar).bind fun _ _ => reads_pure trivial)

theorem reads_wordNode {token : Token} {expected : String} (plain : isPlain expected = true) :
    Reads (IsLeaf token) (wordNode token expected) :=
  (reads_word plain).bind fun lexeme _ => reads_pure (.leaf lexeme)

theorem reads_sign {expected : Char} (inert : OpenQuote.isInert expected = true) :
    Reads (fun _ => True) (sign expected) :=
  reads_spaced (reads_char inert)

theorem reads_bareName : Reads (fun _ => True) bareName := by
  refine (reads_satisfy inert_isLetter).bind fun _ _ => (reads_span inert_isNameChar).bind ?_
  intro others _
  dsimp only
  split
  · intro chars value rest read
    contradiction
  · exact reads_pure trivial

/-- Other quotes and semicolons may stand in a name between quotes. -/
theorem reads_nameWithin {quote : Char} (opens : OpenQuote.opens quote = true) :
    Reads (fun _ => True) (nameWithin quote) := by
  intro chars name rest read
  simp only [nameWithin, bind_eq_done, char_eq_done, pure_eq_done] at read
  obtain ⟨_, _, rfl, content, left, spanned, _, _, rfl, -, rfl⟩ := read
  obtain ⟨rfl, ends⟩ := Prod.mk.inj (Attempt.done.inj spanned)
  rename_i inside _ _
  refine ⟨trivial, quote :: (inside.takeWhile (· != quote) ++ [quote]), ?_, ?_⟩
  · refine .quoted opens (fun member => ?_) .nil
    simpa using List.mem_takeWhile_imp member
  · rw [List.cons_append, List.append_assoc, List.singleton_append, ← ends,
      List.takeWhile_append_dropWhile]

theorem reads_name : Reads (fun _ => True) name :=
  reads_spaced ((reads_nameWithin rfl).orElse ((reads_nameWithin rfl).orElse reads_bareName))

theorem reads_nameNode : Reads (IsLeaf .identifier) nameNode :=
  reads_name.bind fun name _ => reads_pure (.leaf name)

theorem reads_listed {item : Scan α} (reads : Reads good item) :
    Reads (fun found => found ≠ [] ∧ ∀ value ∈ found, good value) (listed item) :=
  (reads_sign rfl).sepBy1 reads

theorem reads_bracketed {item : Scan α} (reads : Reads good item) : Reads good (bracketed item) :=
  (reads_sign rfl).bind fun _ _ => reads.bind fun _ holds =>
    (reads_sign rfl).bind fun _ _ => reads_pure holds

/-! ## Literals -/

/-- A quote that is written twice closes one text between quotes and opens another. -/
theorem closed_of_stringRest {chars content rest : List Char}
    (read : stringRest chars = some (content, rest)) :
    ∃ front, Closed ('\x27' :: front) ∧ chars = front ++ rest := by
  have pair {front : List Char} (others : Closed front) : Closed ('\x27' :: '\x27' :: front) :=
    .quoted rfl List.not_mem_nil others
  fun_induction stringRest chars generalizing content with
  | case1 => contradiction
  | case2 others induction =>
      obtain ⟨⟨content, left⟩, found, same⟩ := Option.map_eq_some_iff.mp read
      obtain ⟨-, rfl⟩ := Prod.mk.inj same
      obtain ⟨front, closed, rfl⟩ := induction found
      exact ⟨'\x27' :: '\x27' :: front, pair closed, rfl⟩
  | case3 =>
      obtain ⟨-, rfl⟩ := Prod.mk.inj (Option.some.inj read)
      exact ⟨['\x27'], pair .nil, rfl⟩
  | case4 =>
      obtain ⟨-, rfl⟩ := Prod.mk.inj (Option.some.inj read)
      exact ⟨['\x27'], pair .nil, rfl⟩
  | case5 c others plain induction =>
      obtain ⟨⟨content, left⟩, found, same⟩ := Option.map_eq_some_iff.mp read
      obtain ⟨-, rfl⟩ := Prod.mk.inj same
      obtain ⟨front, closed, rfl⟩ := induction found
      exact ⟨c :: front, closed.cons_of_quote rfl plain, rfl⟩

theorem reads_stringLiteral : Reads (fun _ => True) stringLiteral := by
  intro chars content rest read
  simp only [stringLiteral, bind_eq_done, char_eq_done, pure_eq_done] at read
  obtain ⟨_, _, rfl, found, _, string, -, rfl⟩ := read
  obtain ⟨front, closed, rfl⟩ := closed_of_stringRest (Attempt.ofOption_eq_done.mp string)
  exact ⟨trivial, '\x27' :: front, closed, rfl⟩

theorem reads_digits :
    Reads (fun text => ∃ written : Wording.Digits, text = String.ofList written.chars) digits :=
  (reads_span1 inert_isDigit).bind fun found digits =>
    reads_pure ⟨⟨found, digits.1, digits.2⟩, rfl⟩

theorem reads_fraction :
    Reads (fun found => ∃ written : Wording.Digits, found = '.' :: written.chars) fraction :=
  (reads_char rfl).bind fun _ _ => (reads_span1 inert_isDigit).bind fun found digits =>
    reads_pure ⟨⟨found, digits.1, digits.2⟩, rfl⟩

theorem reads_number :
    Reads (fun text => ∃ written : Wording.Number, text = String.ofList written.chars) number := by
  have minus : Reads (fun sign => ∃ minus : Bool, sign = if minus then ['-'] else [])
      ((Scan.char '-' *> pure ['-']) <|> pure []) :=
    ((reads_char rfl).seqRight (reads_pure ⟨true, rfl⟩)).orElse (reads_pure ⟨false, rfl⟩)
  have places : Reads (fun found => ∃ fraction : Option Wording.Digits,
      found = fraction.elim [] fun places => '.' :: places.chars) (fraction <|> pure []) :=
    (reads_fraction.mono fun _ ⟨written, same⟩ => ⟨some written, same⟩).orElse
      (reads_pure ⟨none, rfl⟩)
  refine minus.bind ?_
  rintro _ ⟨minus, rfl⟩
  refine (reads_span1 inert_isDigit).bind fun whole digits => places.bind ?_
  rintro _ ⟨fraction, rfl⟩
  exact reads_pure ⟨⟨minus, ⟨whole, digits.1, digits.2⟩, fraction⟩, rfl⟩

theorem reads_currentTime : Reads (fun _ => True) currentTime :=
  (((reads_letters rfl).seqRight (reads_sign rfl)).seqRight (reads_char rfl)).consumed.orElse
    (reads_letters rfl)

theorem reads_literal : Reads IsLiteral literal := by
  have leaf {token : Token} (kind : token ∈ literalTokens) {item : Scan String}
      (reads : Reads (fun _ => True) item) :
      Reads IsLiteral (do return { token, lexeme := ← item }) :=
    reads.bind fun lexeme _ => reads_pure (.literal kind lexeme)
  have number : Reads (fun _ => True) number := reads_number.mono fun _ _ => trivial
  refine reads_spaced ((leaf (by decide) (reads_word rfl)).orElse ?_)
  refine (leaf (by decide) (reads_word rfl)).orElse ((leaf (by decide) (reads_word rfl)).orElse ?_)
  exact (leaf (by decide) reads_currentTime).orElse
    ((leaf (by decide) reads_stringLiteral).orElse (leaf (by decide) number))

/-! ## Conditions -/

theorem reads_oneOf {signs : List (String × Token)}
    (inert : ∀ entry ∈ signs, entry.1.toList.all OpenQuote.isInert = true) :
    Reads (· ∈ signs) (oneOf signs) := by
  induction signs with
  | nil =>
      intro chars value rest read
      contradiction
  | cons entry signs induction =>
      obtain ⟨first, others⟩ := List.forall_mem_cons.mp inert
      refine Reads.orElse ?_ ((induction others).mono fun _ => List.mem_cons_of_mem entry)
      exact (reads_exactly first).seqRight (reads_pure List.mem_cons_self)

theorem reads_term : Reads IsTest term := by
  have notNull : Reads IsTest isNotNull :=
    reads_nameNode.bind fun column name => (reads_word rfl).bind fun _ _ =>
      (reads_word rfl).bind fun _ _ => (reads_word rfl).bind fun _ _ =>
        reads_pure (.nullTest (.inr rfl) _ name)
  have null : Reads IsTest isNull :=
    reads_nameNode.bind fun column name => (reads_word rfl).bind fun _ _ =>
      (reads_word rfl).bind fun _ _ => reads_pure (.nullTest (.inl rfl) _ name)
  have among : Reads IsTest inList :=
    reads_nameNode.bind fun column name => (reads_word rfl).bind fun lexeme _ =>
      (reads_bracketed (reads_listed reads_literal)).bind fun values all =>
        reads_pure (.membership lexeme name all.2)
  have matching : Reads IsTest like :=
    reads_nameNode.bind fun column name => (reads_word rfl).bind fun lexeme _ =>
      reads_literal.bind fun pattern literal =>
        reads_pure (.comparison (by decide) lexeme name literal)
  have compared : Reads IsTest comparison := by
    refine reads_nameNode.bind fun column name => ?_
    refine (reads_spaced (reads_oneOf (by decide))).bind fun entry member => ?_
    obtain ⟨lexeme, token⟩ := entry
    refine reads_literal.bind fun value literal => reads_pure (.comparison ?_ lexeme name literal)
    have kinds : ∀ entry ∈ comparisons, entry.2 ∈ comparisonTokens := by decide
    exact kinds (lexeme, token) member
  exact notNull.orElse (null.orElse (among.orElse (matching.orElse compared)))

theorem joins_joined {token : Token} {lexeme : String} {part : Tree → Prop} {trees : List Tree}
    (filled : trees ≠ []) (parts : ∀ tree ∈ trees, part tree) :
    Joins token part (joined token lexeme trees) := by
  match trees with
  | [] => contradiction
  | [only] => exact .alone (parts only List.mem_cons_self)
  | first :: second :: others => exact .node lexeme (by simp) parts

theorem reads_group : Reads (Joins .allOf IsTest) group :=
  ((reads_word rfl).sepBy1 reads_term).bind fun _ all => reads_pure (joins_joined all.1 all.2)

theorem reads_condition : Reads IsCondition condition :=
  ((reads_word rfl).sepBy1 reads_group).bind fun _ all => reads_pure (joins_joined all.1 all.2)

theorem reads_whereClause : Reads IsWhere whereClause :=
  (reads_word rfl).bind fun lexeme _ => reads_condition.bind fun _ holds =>
    reads_pure (.clause lexeme holds)

/-! ## Definitions of tables -/

theorem reads_guard : Reads (IsLeaf .ifNotExists) guard :=
  (reads_word rfl).bind fun _ _ => (reads_word rfl).bind fun _ _ =>
    (reads_word rfl).bind fun _ _ => reads_pure (.leaf _)

theorem reads_typeLength : Reads (IsLeaf .number) typeLength :=
  reads_bracketed ((reads_spaced reads_digits).bind fun length _ =>
    ((reads_sign rfl).seqRight (reads_spaced reads_digits)).optional.bind fun _ _ =>
      reads_pure (.leaf length))

theorem reads_typeName : Reads IsType typeName :=
  reads_name.bind fun name _ => reads_typeLength.optional.bind fun _ number =>
    (reads_word rfl).optional.bind fun _ _ => reads_pure (.type name number)

theorem reads_constraint :
    Reads (fun found => ∀ tree ∈ found, IsConstraint tree) constraint := by
  have mark {token : Token} (kind : token ∈ markTokens) {lexeme : String} :
      ∀ tree ∈ some (⟨token, lexeme, []⟩ : Tree), IsConstraint tree := by
    rintro _ ⟨⟩
    exact .mark kind lexeme
  have word {token : Token} (kind : token ∈ markTokens) {expected : String}
      (plain : isPlain expected = true) : Reads (fun found => ∀ tree ∈ found, IsConstraint tree)
        (do return some (← wordNode token expected)) := by
    refine (reads_wordNode plain).bind fun _ leaf => reads_pure ?_
    obtain ⟨lexeme⟩ := leaf
    exact mark kind
  refine Reads.orElse ?_ (Reads.orElse ?_ ((word (by decide) rfl).orElse ?_))
  · exact (reads_word rfl).bind fun _ _ => (reads_word rfl).bind fun _ _ =>
      reads_pure (mark (by decide))
  · exact (reads_word rfl).bind fun _ _ => (reads_word rfl).bind fun _ _ =>
      reads_pure (mark (by decide))
  refine (word (by decide) rfl).orElse ((word (by decide) rfl).orElse (Reads.orElse ?_ ?_))
  · refine (reads_word rfl).bind fun _ _ => reads_literal.bind fun value literal => reads_pure ?_
    rintro _ ⟨⟩
    exact .default _ literal
  · exact (reads_word rfl).seqRight (reads_pure (by simp))

theorem reads_column : Reads (IsColumn InAnyOrder) column := by
  refine reads_name.bind fun name _ => reads_typeName.bind fun type typed => ?_
  refine reads_constraint.many.bind fun constraints all => reads_pure ?_
  refine .column name typed (fun tree member => ?_) trivial
  obtain ⟨found, inside, same⟩ := List.mem_filterMap.mp member
  exact all found inside tree same

theorem reads_createTable : Reads (Shaped InAnyOrder) createTable := by
  refine (reads_word rfl).bind fun _ _ => (reads_word rfl).bind fun target _ => ?_
  refine reads_guard.optional.bind fun before guarded => ?_
  have named : Reads (fun tree => ∃ name columns, tree = ⟨.identifier, name, columns⟩ ∧
      columns ≠ [] ∧ ∀ column ∈ columns, IsColumn InAnyOrder column)
      (do
        let name ← nameNode
        return { name with children := ← bracketed (listed column) }) := by
    refine reads_nameNode.bind fun _ leaf => ?_
    obtain ⟨name⟩ := leaf
    exact (reads_bracketed (reads_listed reads_column)).bind fun columns all =>
      reads_pure ⟨name, columns, rfl, all⟩
  refine named.bind ?_
  rintro _ ⟨name, columns, rfl, filled, defined⟩
  refine reads_guard.optional.bind fun behind guarded' => reads_pure ?_
  refine .createTable _ target name (fun node member => ?_) filled defined
  cases before with
  | none => exact guarded' node member
  | some before => exact guarded node member

theorem reads_createDatabase : Reads (Shaped InAnyOrder) createDatabase := by
  refine (reads_word rfl).bind fun _ _ => (reads_word rfl).bind fun target _ => ?_
  refine reads_guard.optional.bind fun before guarded => reads_nameNode.bind fun name named => ?_
  refine reads_guard.optional.bind fun behind guarded' => reads_pure ?_
  refine .createDatabase _ target (fun node member => ?_) named
  cases before with
  | none => exact guarded' node member
  | some before => exact guarded node member

theorem reads_drop : Reads (Shaped InAnyOrder) drop := by
  refine (reads_word rfl).bind fun _ _ => ?_
  have target : Reads (fun tree => ∃ token lexeme, tree = (⟨token, lexeme, []⟩ : Tree) ∧
      (token = .table ∨ token = .database))
      (wordNode .table "TABLE" <|> wordNode .database "DATABASE") := by
    refine ((reads_wordNode rfl).mono ?_).orElse ((reads_wordNode rfl).mono ?_)
    · rintro _ ⟨lexeme⟩
      exact ⟨.table, lexeme, rfl, .inl rfl⟩
    · rintro _ ⟨lexeme⟩
      exact ⟨.database, lexeme, rfl, .inr rfl⟩
  refine target.bind ?_
  rintro _ ⟨token, lexeme, rfl, kind⟩
  exact reads_nameNode.bind fun name named => reads_pure (.drop kind _ lexeme named)

theorem reads_truncate : Reads (Shaped InAnyOrder) truncate :=
  (reads_word rfl).bind fun _ _ => (reads_word rfl).optional.bind fun _ _ =>
    reads_nameNode.bind fun _ named => reads_pure (.truncate _ _ named)

/-! ## Changes to rows -/

theorem reads_tuple : Reads IsTuple tuple :=
  (reads_bracketed (reads_listed reads_literal)).bind fun _ all => reads_pure (.tuple _ all.2)

theorem reads_insert : Reads (Shaped InAnyOrder) insert := by
  refine (reads_word rfl).bind fun _ _ => (reads_word rfl).bind fun into _ => ?_
  refine reads_nameNode.bind fun _ leaf => ?_
  obtain ⟨name⟩ := leaf
  have columns : Reads (fun found => ∀ column ∈ found, IsLeaf .identifier column)
      (bracketed (listed nameNode) <|> pure []) :=
    ((reads_bracketed (reads_listed reads_nameNode)).mono fun _ all => all.2).orElse
      (reads_pure (by simp))
  refine columns.bind fun columns names => (reads_word rfl).bind fun list _ => ?_
  exact (reads_listed reads_tuple).bind fun tuples rows =>
    reads_pure (.insert _ into name list names rows.2)

theorem reads_assignment : Reads IsAssignment assignment :=
  reads_nameNode.bind fun _ name => (reads_sign rfl).bind fun _ _ =>
    reads_literal.bind fun _ literal => reads_pure (.assign _ name literal)

theorem reads_update : Reads (Shaped InAnyOrder) update :=
  (reads_word rfl).bind fun _ _ => reads_nameNode.bind fun _ named =>
    (reads_word rfl).bind fun set _ => (reads_listed reads_assignment).bind fun _ changed =>
      reads_whereClause.optional.bind fun _ filters =>
        reads_pure (.update _ set named changed.2 filters)

theorem reads_delete : Reads (Shaped InAnyOrder) delete :=
  (reads_word rfl).bind fun _ _ => (reads_word rfl).bind fun source _ =>
    reads_nameNode.bind fun _ named => reads_whereClause.optional.bind fun _ filters =>
      reads_pure (.delete _ source named filters)

/-! ## Queries -/

theorem reads_projected :
    Reads (fun columns => ∀ lexeme, IsProjection ⟨.projection, lexeme, columns⟩) projected := by
  refine Reads.orElse ?_ (Reads.orElse ?_ ?_)
  · exact (reads_sign rfl).seqRight (reads_pure fun lexeme => .whole (.inl rfl) lexeme (.leaf _))
  · exact (reads_word rfl).bind fun _ _ => (reads_bracketed (reads_sign rfl)).bind fun _ _ =>
      reads_pure fun lexeme => .whole (.inr rfl) lexeme (.leaf _)
  · exact (reads_listed reads_nameNode).mono fun columns all lexeme =>
      .columns lexeme all.1 all.2

theorem reads_order : Reads IsOrder order := by
  refine (reads_word rfl).bind fun lexeme _ => (reads_word rfl).bind fun _ _ => ?_
  refine reads_nameNode.bind fun _ leaf => ?_
  obtain ⟨name⟩ := leaf
  have direction : Reads (fun tree => IsOrder ⟨.order, lexeme, [⟨.identifier, name, [tree]⟩]⟩)
      direction :=
    ((reads_wordNode rfl).mono fun _ leaf => .order (.inl rfl) lexeme name leaf).orElse
      (((reads_wordNode rfl).mono fun _ leaf => .order (.inr rfl) lexeme name leaf).orElse
        (reads_pure (.order (.inl rfl) lexeme name (.leaf _))))
  exact direction.bind fun _ ordered => reads_pure ordered

theorem reads_rowCount {token : Token} {expected : String} (plain : isPlain expected = true) :
    Reads (IsRowCount token) (rowCount token expected) :=
  (reads_word plain).bind fun lexeme _ => (reads_spaced reads_digits).bind fun count _ =>
    reads_pure (.count lexeme (.leaf count))

theorem reads_select : Reads (Shaped InAnyOrder) select := by
  refine (reads_word rfl).bind fun _ _ => reads_projected.bind fun columns shows => ?_
  refine (reads_word rfl).bind fun source _ => reads_nameNode.bind fun name named => ?_
  refine reads_whereClause.optional.bind fun filter filters => ?_
  refine reads_order.optional.bind fun order orders => ?_
  refine (reads_rowCount rfl).optional.bind fun limit limits => ?_
  refine (reads_rowCount rfl).optional.bind fun offset offsets => reads_pure ?_
  exact .select _ source (shows "") named filters orders limits offsets

/-! ## Statements -/

theorem reads_control {token : Token} (kind : token ∈ controlTokens) {expected : String}
    (plain : isPlain expected = true) : Reads (Shaped InAnyOrder) (control token expected) := by
  refine (reads_wordNode plain).bind fun _ leaf => ?_
  obtain ⟨lexeme⟩ := leaf
  exact (reads_word rfl).optional.bind fun _ _ => reads_pure (.control kind lexeme)

theorem reads_begin : Reads (Shaped InAnyOrder) begin := by
  refine (reads_control (by decide) rfl).orElse ((reads_wordNode rfl).bind fun _ leaf => ?_)
  obtain ⟨lexeme⟩ := leaf
  exact (reads_word rfl).bind fun _ _ => reads_pure (.control (by decide) lexeme)

theorem reads_statement : Reads (Shaped InAnyOrder) statement :=
  reads_createTable.orElse <| reads_createDatabase.orElse <| reads_drop.orElse <|
    reads_truncate.orElse <| reads_insert.orElse <| reads_select.orElse <| reads_update.orElse <|
      reads_delete.orElse <| reads_begin.orElse <|
        (reads_control (by decide) rfl).orElse (reads_control (by decide) rfl)

end Grammar

/-- Every tree of a script comes from the grammar of statements. -/
theorem Script.exists_statement_of_parse {text : String} {trees : List Tree}
    (read : parse text = .ok trees) {tree : Tree} (member : tree ∈ trees) :
    ∃ chars rest, Grammar.statement chars = .done (tree, rest) := by
  unfold parse at read
  split at read
  · contradiction
  · obtain ⟨chars, -, accepted⟩ :=
      Checked.exists_of_mem_right (Checked.mapM_eq_ok.mp read) member
    unfold ofTrimmed at accepted
    split at accepted
    · contradiction
    · contradiction
    · rename_i found rest reads
      dsimp only at accepted
      split at accepted
      · obtain rfl := Except.ok.inj accepted
        exact ⟨chars, rest, reads⟩
      · contradiction

end SqlEngine
