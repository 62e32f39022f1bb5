import SqlEngine.Proofs.Productions

/-!
# How numbers are spelled

The grammar puts a number into a tree only as it stands in the text: as a literal in digits, with an
optional minus sign and an optional fraction, or as a length or a number of rows in digits alone.
-/

namespace SqlEngine

/-- The tokens of numbers, and of columns with their types, which may have numbers below them that
are no literals. -/
def Tree.numeralTokens : List Token :=
  [.number, .columnDef, .typeName]

/-- Trees in which numbers are spelled as numbers, and lengths of the types of columns in digits
alone. -/
inductive Tree.Spelled : Tree → Prop where
  /-- A number is spelled as one. -/
  | number (written : Wording.Number) : Spelled ⟨.number, String.ofList written.chars, []⟩
  /-- A column has a type with a length in digits, or none. -/
  | column (name type : String) (length : Option Wording.Digits) {constraints : List Tree}
      (below : ∀ constraint ∈ constraints, constraint.Spelled) :
      Spelled ⟨.columnDef, name, ⟨.typeName, type,
        (length.map fun written => ⟨.number, String.ofList written.chars, []⟩).toList⟩ ::
          constraints⟩
  /-- Any other node is above nodes of which this is true. -/
  | node {token : Token} (other : token ∉ numeralTokens) (lexeme : String)
      {children : List Tree} (below : ∀ child ∈ children, child.Spelled) :
      Spelled ⟨token, lexeme, children⟩

namespace Tree

variable {token : Token} {tree : Tree}

theorem IsLeaf.spelled (leaf : IsLeaf token tree)
    (other : token ∉ numeralTokens) : tree.Spelled := by
  obtain ⟨lexeme⟩ := leaf
  exact .node other lexeme (by simp)

/-- Digits alone are a number. -/
theorem spelled_digits (written : Wording.Digits) :
    Spelled ⟨.number, String.ofList written.chars, []⟩ := by
  have same : written.chars = (⟨false, written, none⟩ : Wording.Number).chars := by
    simp [Wording.Number.chars]
  rw [same]
  exact .number _

theorem spelled_toList {found : Option Tree} (all : ∀ tree ∈ found, tree.Spelled) :
    ∀ tree ∈ found.toList, tree.Spelled :=
  fun tree member => all tree (Option.mem_toList.mp member)

end Tree

namespace Grammar

open Scan SqlEngine.Tree
open Wording (isPlain)

/-! ## Literals and conditions -/

theorem spells_nameNode : Reads Spelled nameNode :=
  reads_nameNode.mono fun _ leaf => leaf.spelled (by decide)

theorem spells_wordNode {token : Token} (other : token ∉ numeralTokens)
    {expected : String} (plain : isPlain expected = true) :
    Reads Spelled (wordNode token expected) :=
  (reads_wordNode plain).mono fun _ leaf => leaf.spelled other

theorem spells_literal : Reads Spelled literal := by
  have leaf {token : Token} (other : token ∉ numeralTokens) {item : Scan String}
      (reads : Reads (fun _ => True) item) :
      Reads Spelled (do return { token, lexeme := ← item }) :=
    reads.bind fun lexeme _ => reads_pure (.node other lexeme (by simp))
  have number : Reads Spelled
      (do return { token := .number, lexeme := ← number }) := by
    refine reads_number.bind ?_
    rintro _ ⟨written, rfl⟩
    exact reads_pure (.number written)
  refine reads_spaced ((spells_wordNode (by decide) rfl).orElse ?_)
  refine (spells_wordNode (by decide) rfl).orElse ((spells_wordNode (by decide) rfl).orElse ?_)
  exact (leaf (by decide) reads_currentTime).orElse
    ((leaf (by decide) reads_stringLiteral).orElse number)

theorem spells_term : Reads Spelled term := by
  have test {token : Token} (other : token ∉ numeralTokens) (lexeme : String)
      {column : Tree} (name : column.Spelled) {values : List Tree}
      (all : ∀ value ∈ values, value.Spelled) : Spelled ⟨token, lexeme, column :: values⟩ :=
    .node other lexeme (List.forall_mem_cons.mpr ⟨name, all⟩)
  have notNull : Reads Spelled isNotNull :=
    spells_nameNode.bind fun _ name => (reads_word rfl).bind fun _ _ =>
      (reads_word rfl).bind fun _ _ => (reads_word rfl).bind fun _ _ =>
        reads_pure (test (by decide) _ name (by simp))
  have null : Reads Spelled isNull :=
    spells_nameNode.bind fun _ name => (reads_word rfl).bind fun _ _ =>
      (reads_word rfl).bind fun _ _ => reads_pure (test (by decide) _ name (by simp))
  have among : Reads Spelled inList :=
    spells_nameNode.bind fun _ name => (reads_word rfl).bind fun lexeme _ =>
      (reads_bracketed (reads_listed spells_literal)).bind fun _ all =>
        reads_pure (test (by decide) lexeme name all.2)
  have matching : Reads Spelled like :=
    spells_nameNode.bind fun _ name => (reads_word rfl).bind fun lexeme _ =>
      spells_literal.bind fun _ pattern =>
        reads_pure (test (by decide) lexeme name (List.forall_mem_singleton.mpr pattern))
  have compared : Reads Spelled comparison := by
    refine spells_nameNode.bind fun _ name => ?_
    refine (reads_spaced (reads_oneOf (by decide))).bind fun entry member => ?_
    have signs : ∀ entry ∈ comparisons, entry.2 ∉ numeralTokens := by decide
    exact spells_literal.bind fun _ value => reads_pure
      (test (signs entry member) entry.1 name (List.forall_mem_singleton.mpr value))
  exact notNull.orElse (null.orElse (among.orElse (matching.orElse compared)))

theorem spelled_joined {token : Token} (other : token ∉ numeralTokens)
    (lexeme : String) {trees : List Tree} (all : ∀ tree ∈ trees, tree.Spelled) :
    (joined token lexeme trees).Spelled := by
  unfold joined
  split
  · exact all _ List.mem_cons_self
  · exact .node other lexeme all

theorem spells_group : Reads Spelled group :=
  ((reads_word rfl).sepBy1 spells_term).bind fun _ all =>
    reads_pure (spelled_joined (by decide) "AND" all.2)

theorem spells_condition : Reads Spelled condition :=
  ((reads_word rfl).sepBy1 spells_group).bind fun _ all =>
    reads_pure (spelled_joined (by decide) "OR" all.2)

theorem spells_whereClause : Reads Spelled whereClause :=
  (reads_word rfl).bind fun lexeme _ => spells_condition.bind fun _ condition =>
    reads_pure (.node (by decide) lexeme (List.forall_mem_singleton.mpr condition))

/-! ## Definitions of tables -/

theorem spells_typeName :
    Reads (fun tree => ∃ (name : String) (length : Option Wording.Digits), tree = ⟨.typeName, name,
      (length.map fun written => ⟨.number, String.ofList written.chars, []⟩).toList⟩) typeName := by
  have length : Reads (fun tree => ∃ written : Wording.Digits,
      tree = ⟨.number, String.ofList written.chars, []⟩) typeLength := by
    refine reads_bracketed ((reads_spaced reads_digits).bind ?_)
    rintro _ ⟨written, rfl⟩
    exact ((reads_sign rfl).seqRight (reads_spaced reads_digits)).optional.bind fun _ _ =>
      reads_pure ⟨written, rfl⟩
  refine reads_name.bind fun name _ => length.optional.bind fun found digits => ?_
  refine (reads_word rfl).optional.bind fun _ _ => reads_pure ?_
  cases found with
  | none => exact ⟨name, none, rfl⟩
  | some found =>
      obtain ⟨written, rfl⟩ := digits found rfl
      exact ⟨name, some written, rfl⟩

theorem spells_constraint :
    Reads (fun found => ∀ tree ∈ found, tree.Spelled) constraint := by
  have mark {token : Token} (other : token ∉ numeralTokens) (lexeme : String) :
      ∀ tree ∈ some (⟨token, lexeme, []⟩ : Tree), tree.Spelled := by
    rintro _ ⟨⟩
    exact .node other lexeme (by simp)
  have word {token : Token} (other : token ∉ numeralTokens) {expected : String}
      (plain : isPlain expected = true) : Reads (fun found => ∀ tree ∈ found, tree.Spelled)
        (do return some (← wordNode token expected)) := by
    refine (reads_wordNode plain).bind fun _ leaf => reads_pure ?_
    obtain ⟨lexeme⟩ := leaf
    exact mark other lexeme
  refine Reads.orElse ?_ (Reads.orElse ?_ ((word (by decide) rfl).orElse ?_))
  · exact (reads_word rfl).bind fun _ _ => (reads_word rfl).bind fun _ _ =>
      reads_pure (mark (by decide) _)
  · exact (reads_word rfl).bind fun _ _ => (reads_word rfl).bind fun _ _ =>
      reads_pure (mark (by decide) _)
  refine (word (by decide) rfl).orElse ((word (by decide) rfl).orElse (Reads.orElse ?_ ?_))
  · refine (reads_word rfl).bind fun _ _ => spells_literal.bind fun value literal => reads_pure ?_
    rintro _ ⟨⟩
    exact .node (by decide) _ (List.forall_mem_singleton.mpr literal)
  · exact (reads_word rfl).seqRight (reads_pure (by simp))

theorem spells_column : Reads Spelled column := by
  refine reads_name.bind fun name _ => spells_typeName.bind ?_
  rintro _ ⟨type, length, rfl⟩
  refine spells_constraint.many.bind fun constraints all => reads_pure ?_
  refine .column name type length fun tree member => ?_
  obtain ⟨found, inside, same⟩ := List.mem_filterMap.mp member
  exact all found inside tree same

theorem spells_create {token : Token} (other : token ∉ numeralTokens)
    {expected : String} (plain : isPlain expected = true) {named : Scan Tree}
    (reads : Reads Spelled named) :
    Reads Spelled (create token expected named) := by
  have guard : Reads Spelled guard :=
    reads_guard.mono fun _ leaf => leaf.spelled (by decide)
  refine (reads_word rfl).bind fun _ _ => (reads_word plain).bind fun target _ => ?_
  refine guard.optional.bind fun before guarded => reads.bind fun name spelled => ?_
  refine guard.optional.bind fun behind guarded' => reads_pure ?_
  refine .node (by decide) _ (List.forall_mem_singleton.mpr (.node other target ?_))
  refine List.forall_mem_append.mpr
    ⟨spelled_toList fun node member => ?_, List.forall_mem_singleton.mpr spelled⟩
  cases before with
  | none => exact guarded' node member
  | some before => exact guarded node member

theorem spells_createTable : Reads Spelled createTable := by
  refine spells_create (by decide) rfl (reads_nameNode.bind fun _ leaf => ?_)
  obtain ⟨name⟩ := leaf
  exact (reads_bracketed (reads_listed spells_column)).bind fun columns all =>
    reads_pure (@Spelled.node .identifier (by decide) name columns all.2)

theorem spells_drop : Reads Spelled drop := by
  have target : Reads (fun tree => tree.token ∉ numeralTokens)
      (wordNode .table "TABLE" <|> wordNode .database "DATABASE") := by
    refine ((reads_wordNode rfl).mono ?_).orElse ((reads_wordNode rfl).mono ?_)
    · rintro _ ⟨lexeme⟩
      simp [numeralTokens]
    · rintro _ ⟨lexeme⟩
      simp [numeralTokens]
  exact (reads_word rfl).bind fun _ _ => target.bind fun target other =>
    spells_nameNode.bind fun _ name => reads_pure (.node (by decide) _
      (List.forall_mem_singleton.mpr (.node other _ (List.forall_mem_singleton.mpr name))))

theorem spells_truncate : Reads Spelled truncate :=
  (reads_word rfl).bind fun _ _ => (reads_word rfl).optional.bind fun _ _ =>
    spells_nameNode.bind fun _ name => reads_pure (.node (by decide) _
      (List.forall_mem_singleton.mpr (.node (by decide) _ (List.forall_mem_singleton.mpr name))))

/-! ## Changes to rows -/

theorem spells_insert : Reads Spelled insert := by
  have tuple : Reads Spelled tuple :=
    (reads_bracketed (reads_listed spells_literal)).bind fun _ all =>
      reads_pure (.node (by decide) _ all.2)
  have columns : Reads (fun found => ∀ column ∈ found, column.Spelled)
      (bracketed (listed nameNode) <|> pure []) :=
    ((reads_bracketed (reads_listed spells_nameNode)).mono fun _ all => all.2).orElse
      (reads_pure (by simp))
  refine (reads_word rfl).bind fun _ _ => (reads_word rfl).bind fun into _ => ?_
  refine reads_nameNode.bind fun _ leaf => columns.bind fun columns names => ?_
  obtain ⟨name⟩ := leaf
  refine (reads_word rfl).bind fun list _ => (reads_listed tuple).bind fun tuples rows => ?_
  have table : Spelled ⟨.identifier, name, columns⟩ := .node (by decide) name names
  exact reads_pure (.node (by decide) _ (List.forall_mem_cons.mpr
    ⟨.node (by decide) into (List.forall_mem_singleton.mpr table),
      List.forall_mem_singleton.mpr (.node (by decide) list rows.2)⟩))

theorem spells_update : Reads Spelled update := by
  have assignment : Reads Spelled assignment :=
    spells_nameNode.bind fun _ name => (reads_sign rfl).bind fun _ _ =>
      spells_literal.bind fun _ literal => reads_pure (.node (by decide) _
        (List.forall_mem_cons.mpr ⟨name, List.forall_mem_singleton.mpr literal⟩))
  refine (reads_word rfl).bind fun _ _ => spells_nameNode.bind fun _ name => ?_
  refine (reads_word rfl).bind fun set _ => (reads_listed assignment).bind fun _ changes => ?_
  refine spells_whereClause.optional.bind fun _ filter => reads_pure (.node (by decide) _ ?_)
  exact List.forall_mem_cons.mpr ⟨name, List.forall_mem_cons.mpr
    ⟨.node (by decide) set changes.2, spelled_toList filter⟩⟩

theorem spells_delete : Reads Spelled delete :=
  (reads_word rfl).bind fun _ _ => (reads_word rfl).bind fun source _ =>
    spells_nameNode.bind fun _ name => spells_whereClause.optional.bind fun _ filter =>
      reads_pure (.node (by decide) _ (List.forall_mem_cons.mpr
        ⟨.node (by decide) source (List.forall_mem_singleton.mpr name), spelled_toList filter⟩))

/-! ## Queries -/

theorem spells_projected :
    Reads (fun columns => ∀ column ∈ columns, column.Spelled) projected := by
  have shown {token : Token} (other : token ∉ numeralTokens) (lexeme : String) :
      ∀ column ∈ [(⟨token, lexeme, []⟩ : Tree)], column.Spelled :=
    List.forall_mem_singleton.mpr (.node other lexeme (by simp))
  refine Reads.orElse ?_ (Reads.orElse ?_ ?_)
  · exact (reads_sign rfl).seqRight (reads_pure (shown (by decide) _))
  · exact (reads_word rfl).bind fun _ _ => (reads_bracketed (reads_sign rfl)).bind fun _ _ =>
      reads_pure (shown (by decide) _)
  · exact (reads_listed spells_nameNode).mono fun _ all => all.2

theorem spells_order : Reads Spelled order := by
  have direction : Reads Spelled direction :=
    (spells_wordNode (by decide) rfl).orElse ((spells_wordNode (by decide) rfl).orElse
      (reads_pure (.node (by decide) _ (by simp))))
  refine (reads_word rfl).bind fun lexeme _ => (reads_word rfl).bind fun _ _ => ?_
  refine reads_nameNode.bind fun _ leaf => direction.bind fun _ spelled => reads_pure ?_
  obtain ⟨name⟩ := leaf
  have column : Spelled ⟨.identifier, name, [_]⟩ :=
    .node (by decide) name (List.forall_mem_singleton.mpr spelled)
  exact .node (by decide) lexeme (List.forall_mem_singleton.mpr column)

theorem spells_rowCount {token : Token} (other : token ∉ numeralTokens)
    {expected : String} (plain : isPlain expected = true) :
    Reads Spelled (rowCount token expected) := by
  refine (reads_word plain).bind fun lexeme _ => (reads_spaced reads_digits).bind ?_
  rintro _ ⟨written, rfl⟩
  exact reads_pure (.node other lexeme (List.forall_mem_singleton.mpr (spelled_digits written)))

theorem spells_select : Reads Spelled select := by
  refine (reads_word rfl).bind fun _ _ => spells_projected.bind fun columns shows => ?_
  refine (reads_word rfl).bind fun source _ => spells_nameNode.bind fun name named => ?_
  refine spells_whereClause.optional.bind fun _ filter => ?_
  refine spells_order.optional.bind fun _ order => ?_
  refine (spells_rowCount (by decide) rfl).optional.bind fun _ limit => ?_
  refine (spells_rowCount (by decide) rfl).optional.bind fun _ offset => ?_
  refine reads_pure (.node (by decide) _ ?_)
  have table : Spelled ⟨.fromTable, source, [name]⟩ :=
    .node (by decide) source (List.forall_mem_singleton.mpr named)
  have shown : ∀ tree ∈ [(⟨.projection, "", columns⟩ : Tree), ⟨.fromTable, source, [name]⟩],
      tree.Spelled :=
    List.forall_mem_cons.mpr ⟨.node (by decide) "" shows, List.forall_mem_singleton.mpr table⟩
  exact List.forall_mem_append.mpr ⟨List.forall_mem_append.mpr ⟨List.forall_mem_append.mpr
    ⟨List.forall_mem_append.mpr ⟨shown, spelled_toList filter⟩, spelled_toList order⟩,
      spelled_toList limit⟩, spelled_toList offset⟩

/-! ## Statements -/

theorem spells_statement : Reads Spelled statement := by
  have control {token : Token} (other : token ∉ numeralTokens) {expected : String}
      (plain : isPlain expected = true) :
      Reads Spelled (control token expected) :=
    (spells_wordNode other plain).bind fun _ spelled => (reads_word rfl).optional.bind fun _ _ =>
      reads_pure spelled
  have begin : Reads Spelled begin :=
    (control (by decide) rfl).orElse ((spells_wordNode (by decide) rfl).bind fun _ spelled =>
      (reads_word rfl).bind fun _ _ => reads_pure spelled)
  exact spells_createTable.orElse <| (spells_create (by decide) rfl spells_nameNode).orElse <|
    spells_drop.orElse <| spells_truncate.orElse <| spells_insert.orElse <|
      spells_select.orElse <| spells_update.orElse <| spells_delete.orElse <|
        begin.orElse <| (control (by decide) rfl).orElse (control (by decide) rfl)

end Grammar

/-- The numbers of every tree that is read from a text are spelled as numbers. -/
theorem Script.spelled_of_parse {text : String} {trees : List Tree}
    (read : parse text = .ok trees) : ∀ tree ∈ trees, tree.Spelled := by
  intro tree member
  obtain ⟨chars, rest, found⟩ := exists_statement_of_parse read member
  exact (Grammar.spells_statement found).1

end SqlEngine
