import SqlEngine.Proofs.Vocabulary
import SqlEngine.Statement.Script

/-!
# Completeness of the grammar

Every wording of a statement is read, however its marks are written, and as the tree that it means.
The alternatives of the grammar are tried in order, so that a wording is read by the first one that
does not reject it: mostly its first word decides, and in a condition the word behind the column.
-/

namespace SqlEngine
namespace Wording

open Grammar Scan SqlEngine.Tree

/-! ## Conditions -/

theorem reads_literals (values : Several Literal) :
    Reads (Grammar.bracketed (Grammar.listed literal)) (bracketed (listed Literal.marks values))
      (fun found => found.map withoutSpelling =
        (values.toList.map Literal.tree).map withoutSpelling) AnyMarks := by
  refine (reads_bracketed (reads_listed (fun value _ => reads_literal value) fun _ => trivial)
    fun _ => ⟨trivial, rfl⟩).mono (fun _ same => ?_) fun _ behind => behind
  exact map_withoutSpelling same

theorem reads_term (test : Test) :
    Reads term test.marks (SameButSpelling · test.tree) AnyMarks := by
  -- All tests start with a column, and the mark behind it tells most of them apart.
  have rejects {column : Name} {marks : List Mark} {expected : String}
      (lacks : lacksWord expected marks = true) {step : Tree → String → Scan Tree} :
      Rejects (nameNode >>= fun column => word expected >>= step column) (column.marks ++ marks) :=
    (reads_nameNode column).rejects_bind fun _ _ => (rejects_word lacks).bind
  cases test with
  | isNotNull column =>
      refine .orElse_left ((reads_nameNode column).bind ?_)
      rintro _ rfl
      refine (reads_word "IS").cons fun _ _ => (reads_word "NOT").cons fun _ _ => ?_
      exact (reads_word "NULL").map fun _ _ => .refl _
  | isNull column =>
      refine .orElse_right (fun others _ => ?_) (.orElse_left ((reads_nameNode column).bind ?_))
      · exact (reads_nameNode column).rejects_cons fun _ _ => (reads_word "IS").rejects_cons
          fun _ _ => (rejects_word rfl).bind
      · rintro _ rfl
        refine (reads_word "IS").cons fun _ _ => ?_
        exact (reads_word "NULL").map fun _ _ => .refl _
  | isIn column values =>
      refine .orElse_right (fun others _ => rejects rfl) ?_
      refine .orElse_right (fun others _ => rejects rfl) (.orElse_left ?_)
      refine (reads_nameNode column).bind ?_
      rintro _ rfl
      refine (reads_word "IN").cons fun _ _ => (reads_literals values).map fun _ same => ?_
      simp [SameButSpelling, Test.tree, Token.isSpelled, same]
  | isLike column pattern =>
      refine .orElse_right (fun others _ => rejects rfl) ?_
      refine .orElse_right (fun others _ => rejects rfl) ?_
      refine .orElse_right (fun others _ => rejects rfl) (.orElse_left ?_)
      refine (reads_nameNode column).bind ?_
      rintro _ rfl
      refine (reads_word "LIKE").cons fun _ _ => (reads_literal pattern).map fun _ same => ?_
      simp [SameButSpelling, Test.tree, Token.isSpelled, same.eq]
  | compares column kind value =>
      refine .orElse_right (fun others _ => rejects rfl) ?_
      refine .orElse_right (fun others _ => rejects rfl) ?_
      refine .orElse_right (fun others _ => rejects rfl) ?_
      refine .orElse_right (fun others _ => rejects rfl) ?_
      refine (reads_nameNode column).bind ?_
      rintro _ rfl
      refine (reads_comparison kind).cons ?_
      rintro _ rfl
      refine (reads_literal value).map fun _ same => ?_
      simp [SameButSpelling, Test.tree, same.eq]

theorem joined_withoutSpelling {token : Token} {lexeme : String} {found : List Tree}
    {trees : Several Tree} (same : found.map withoutSpelling = trees.toList.map withoutSpelling) :
    SameButSpelling (joined token lexeme found) (trees.joined token lexeme) := by
  obtain ⟨first, others⟩ := trees
  match found, others, same with
  | [only], [], same => exact (List.cons.inj same).1
  | [_], _ :: _, same => exact nomatch (List.cons.inj same).2
  | _ :: _ :: _, [], same => exact nomatch (List.cons.inj same).2
  | _ :: _ :: _, _ :: _, same =>
      simp only [SameButSpelling, joined, Several.joined, withoutSpelling_mk]
      rw [same]

theorem reads_group (group : Group) :
    Reads Grammar.group group.marks (SameButSpelling · group.tree)
      (lacksWord "AND" · = true) := by
  refine ReadsFrom.map (.sepBy1 (fun test _ => reads_term test) (reads_word "AND")
    (fun _ => trivial) (fun _ _ => trivial) fun _ => rejects_word) fun found same => ?_
  exact joined_withoutSpelling (map_withoutSpelling same)

theorem reads_whereClause (condition : Condition) :
    Reads whereClause condition.marks (SameButSpelling · condition.tree)
      fun others => lacksWord "AND" others = true ∧ lacksWord "OR" others = true := by
  refine (reads_word "WHERE").cons fun _ _ => ?_
  have reads : Reads Grammar.condition (separated (.word "OR") Group.marks condition.groups)
      (SameButSpelling · ((condition.groups.map Group.tree).joined .anyOf "OR"))
      fun others => lacksWord "AND" others = true ∧ lacksWord "OR" others = true := by
    refine ReadsFrom.map (.sepBy1 (fun group _ => reads_group group) (reads_word "OR")
      (fun _ => rfl) (fun _ behind => behind.1) fun _ behind => rejects_word behind.2)
      fun found same => ?_
    exact joined_withoutSpelling (map_withoutSpelling same)
  refine reads.map fun found same => ?_
  simp [SameButSpelling, Condition.tree, Token.isSpelled, same.eq]

/-- Whether no further part of a condition can follow. -/
def endsFilter (others : List Mark) : Bool :=
  lacksWord "WHERE" others && lacksWord "AND" others && lacksWord "OR" others

theorem reads_filter (filter : Option Condition) :
    Reads (optional whereClause) (given Condition.marks filter)
      (fun found => found.toList.map withoutSpelling =
        (filter.map Condition.tree).toList.map withoutSpelling)
      (endsFilter · = true) := by
  refine ReadsFrom.mono (.optionally (fun condition _ => (reads_whereClause condition).mono
    (fun _ same => same) ?_) ?_) (fun _ same => toList_withoutSpelling same) fun _ behind => behind
  · intro others behind
    simp only [endsFilter, Bool.and_eq_true] at behind
    exact ⟨behind.1.2, behind.2⟩
  · intro others behind
    simp only [endsFilter, Bool.and_eq_true] at behind
    exact (rejects_word behind.1.1).bind

/-! ## Definitions of tables -/

theorem reads_constraint (written : Constraint) :
    Reads constraint written.marks
      (fun found => Option.Rel SameButSpelling found written.tree?) AnyMarks := by
  have two {first second : String} {tree : Tree} :
      Reads (do
          let _ ← word first
          let _ ← word second
          return some tree) [.word first, .word second]
        (fun found => Option.Rel SameButSpelling found (some tree)) AnyMarks :=
    (reads_word first).cons fun _ _ => (reads_word second).map fun _ _ => .some (.refl _)
  have one {token : Token} (spelled : token.isSpelled = true) (expected lexeme : String) :
      Reads (do return some (← wordNode token expected)) [.word expected]
        (fun found => Option.Rel SameButSpelling found (some { token, lexeme })) AnyMarks :=
    (reads_spelled spelled expected lexeme).map fun _ same => .some same
  cases written with
  | notNull => exact .orElse_left two
  | primaryKey =>
      exact .past (fun _ => rfl) (.orElse_left two)
  | unique =>
      refine .past (fun _ => rfl) (.past (fun _ => rfl) ?_)
      exact .orElse_left (one rfl "UNIQUE" _)
  | autoIncrement parted =>
      refine .past (fun _ => by cases parted <;> rfl) (.past (fun _ => by cases parted <;> rfl) ?_)
      refine .orElse_right (fun _ _ => (rejects_wordNode (by cases parted <;> rfl)).bind) ?_
      cases parted with
      | false => exact .orElse_left (one rfl "AUTOINCREMENT" _)
      | true =>
          refine .orElse_right (fun _ _ => (rejects_wordNode rfl).bind) ?_
          exact .orElse_left (one rfl "AUTO_INCREMENT" _)
  | default value =>
      refine .past (fun _ => rfl) (.past (fun _ => rfl) ?_)
      refine .orElse_right (fun _ _ => (rejects_wordNode rfl).bind) ?_
      refine .orElse_right (fun _ _ => (rejects_wordNode rfl).bind) ?_
      refine .orElse_right (fun _ _ => (rejects_wordNode rfl).bind) (.orElse_left ?_)
      refine (reads_word "DEFAULT").cons fun _ _ => (reads_literal value).map fun _ same => ?_
      exact .some (by simp [SameButSpelling, same.eq])
  | null =>
      refine .past (fun _ => rfl) (.past (fun _ => rfl) ?_)
      refine .orElse_right (fun _ _ => (rejects_wordNode rfl).bind) ?_
      refine .orElse_right (fun _ _ => (rejects_wordNode rfl).bind) ?_
      refine .orElse_right (fun _ _ => (rejects_wordNode rfl).bind) (.past (fun _ => rfl) ?_)
      exact (reads_word "NULL").map fun _ _ => .none

/-- Whether an item of a list ends in front of marks. -/
def endsItem (others : List Mark) : Bool :=
  others.head?.all fun
    | .sign .comma | .sign .closing => true
    | _ => false

theorem lacksWord_of_endsItem {expected : String} (plain : isPlain expected = true)
    {others : List Mark} (ends : endsItem others = true) : lacksWord expected others = true := by
  rw [lacksWord, plain, Bool.true_and, Option.all_eq_true]
  intro mark first
  rw [endsItem, Option.all_eq_true] at ends
  have ends := ends mark first
  cases mark with
  | word | bareName => contradiction
  | _ => rfl

theorem lacksOpening_of_endsItem {others : List Mark} (ends : endsItem others = true) :
    lacksSign '(' others = true := by
  rw [lacksSign, Option.all_eq_true]
  intro mark first
  rw [endsItem, Option.all_eq_true] at ends
  have ends := ends mark first
  cases mark with
  | sign written =>
      cases written with
      | comma | closing => rfl
      | _ => contradiction
  | _ => contradiction

theorem rejects_constraint {others : List Mark} (ends : endsItem others = true) :
    Rejects constraint others := by
  have lacks {expected : String} (plain : isPlain expected = true) :
      Rejects (word expected) others :=
    rejects_word (lacksWord_of_endsItem plain ends)
  refine (lacks rfl).bind.orElse ((lacks rfl).bind.orElse ((lacks rfl).bind.bind.orElse ?_))
  refine (lacks rfl).bind.bind.orElse ((lacks rfl).bind.bind.orElse ?_)
  exact (lacks rfl).bind.orElse (lacks rfl).bind

theorem Constraint.marks_ne_nil (written : Constraint) : written.marks ≠ [] := by
  cases written with
  | autoIncrement parted => cases parted <;> exact List.cons_ne_nil _ _
  | _ => exact List.cons_ne_nil _ _

theorem constraints_withoutSpelling {written : List Constraint} {found : List (Option Tree)}
    (same : List.Forall₂ (fun part value => Option.Rel SameButSpelling part value.tree?)
      found written) :
    (found.filterMap id).map withoutSpelling =
      (written.filterMap Constraint.tree?).map withoutSpelling := by
  induction same with
  | nil => rfl
  | @cons first value found values here _ induction =>
      cases shown : value.tree? with
      | none =>
          rw [shown] at here
          cases here
          simpa [shown] using induction
      | some tree =>
          rw [shown] at here
          cases here with
          | some same => simpa [shown, same.eq] using induction

theorem reads_constraints (written : List Constraint) :
    Reads (many constraint) (written.flatMap Constraint.marks)
      (fun found => (found.filterMap id).map withoutSpelling =
        (written.filterMap Constraint.tree?).map withoutSpelling)
      (endsItem · = true) := by
  have reads : Reads (many constraint) (written.flatMap Constraint.marks) _ (endsItem · = true) :=
    .many (fun value _ => reads_constraint value) (fun value _ => value.marks_ne_nil)
      (fun _ _ _ => trivial) fun _ => rejects_constraint
  exact reads.mono (fun _ => constraints_withoutSpelling) fun _ behind => behind

theorem reads_typeLength (written : Length) :
    Reads typeLength written.marks (· = written.length.tree) AnyMarks := by
  have places : Reads (optional (sign ',' *> spaced digits))
      (given (fun places => .sign .comma :: places.marks) written.places)
      (fun found => Option.Rel (fun _ _ => True) found written.places)
      (lacksSign ',' · = true) := by
    refine .optionally (fun places _ => ?_) fun _ behind => (rejects_sign behind).bind
    refine ((reads_sign rfl).seqRight (reads_digits places)).mono ?_ fun _ _ => trivial
    exact fun _ _ => trivial
  have inside : Reads (do
        let length ← spaced digits
        let _ ← optional (sign ',' *> spaced digits)
        return { token := .number, lexeme := length })
      (written.length.marks ++ given (fun places => .sign .comma :: places.marks) written.places)
      (· = written.length.tree) (lacksSign ',' · = true) := by
    refine (reads_digits written.length).bind ?_
    rintro _ rfl
    exact places.map fun _ _ => rfl
  exact reads_bracketed inside fun _ => rfl

theorem reads_type (column : Column) :
    Reads typeName column.typeMarks (· = column.typeTree)
      fun others => lacksSign '(' others = true ∧ lacksWord "PRECISION" others = true := by
  have length : Reads (optional typeLength) (given Length.marks column.length)
      (fun found => Option.Rel (fun tree length => tree = length.length.tree) found column.length)
      (lacksSign '(' · = true) :=
    .optionally (fun length _ => (reads_typeLength length).mono (fun _ same => same)
      fun _ _ => trivial) fun _ behind => (rejects_sign behind).bind
  refine (reads_typeName column.type).bind ?_
  rintro _ rfl
  refine length.bindBefore (fun found same => ?_) fun others behind => ?_
  · refine ReadsFrom.map (.said ((reads_word "PRECISION").mono (fun _ _ => trivial)
      fun _ _ => trivial) fun _ behind => rejects_word behind.2) fun _ _ => ?_
    cases column with
    | mk name type length precision constraints =>
        cases same with
        | none => rfl
        | some same => rw [same]; rfl
  · cases column.precision with
    | false => exact behind.1
    | true => rfl

theorem reads_column (written : Column) :
    Reads Grammar.column written.marks (SameButSpelling · written.tree) (endsItem · = true) := by
  refine (reads_name written.name).bind ?_
  rintro _ rfl
  refine (reads_type written).bindBefore ?_ fun others ends => ?_
  · rintro _ rfl
    refine (reads_constraints written.constraints).map fun found same => ?_
    simp only [SameButSpelling, Column.tree, withoutSpelling_mk, List.map_cons, same]
  · cases written.constraints with
    | nil =>
        exact ⟨lacksOpening_of_endsItem ends, lacksWord_of_endsItem rfl ends⟩
    | cons first constraints =>
        cases first with
        | autoIncrement parted => cases parted <;> exact ⟨rfl, rfl⟩
        | _ => exact ⟨rfl, rfl⟩

theorem reads_guard : Reads Grammar.guard Guard.marks
    (· = { token := .ifNotExists, lexeme := "IF NOT EXISTS" }) AnyMarks :=
  (reads_word "IF").cons fun _ _ => (reads_word "NOT").cons fun _ _ =>
    (reads_word "EXISTS").map fun _ _ => rfl

theorem reads_optional_guard (present : Bool) :
    Reads (optional Grammar.guard) (said present Guard.marks)
      (· = if present then some { token := .ifNotExists, lexeme := "IF NOT EXISTS" } else none)
      (lacksWord "IF" · = true) := by
  refine ReadsFrom.mono (.said (reads_guard.mono (fun _ same => same) fun _ _ => trivial)
    fun _ lacks => (rejects_word lacks).bind) (fun found same => ?_) fun _ behind => behind
  obtain ⟨same, guard⟩ := same
  cases found with
  | none => cases same; rfl
  | some tree => cases same; rw [guard tree rfl]; rfl

theorem reads_create (target : Target) (guard : Guard) {named : Scan Tree} {marks : List Mark}
    {tree : Tree} (reads : Reads named marks (SameButSpelling · tree) AnyMarks)
    (front : ∀ others, lacksWord "IF" (marks ++ others) = true) :
    Reads (create target.token target.word named) (Statement.createMarks target guard marks)
      (SameButSpelling · { token := .create
                           lexeme := "CREATE"
                           children := [target.tree (guard.trees ++ [tree])] })
      (lacksWord "IF" · = true) := by
  refine (reads_word "CREATE").cons fun _ _ => (reads_word target.word).cons fun lexeme _ => ?_
  refine (reads_optional_guard guard.before).bindBefore ?_ fun others _ => ?_
  · rintro _ rfl
    refine reads.bind fun name same => (reads_optional_guard guard.behind).map ?_
    rintro _ rfl
    obtain ⟨before, behind⟩ := guard
    cases target <;> cases before <;> cases behind <;>
      simp [SameButSpelling, Target.tree, Target.token, Guard.trees, Token.isSpelled, same.eq]
  · rw [List.append_assoc]
    exact front _

theorem reads_createTable (guard : Guard) (name : Name) (columns : Several Column) :
    Reads createTable (Statement.createTable guard name columns).marks
      (SameButSpelling · (Statement.createTable guard name columns).tree)
      (lacksWord "IF" · = true) := by
  refine reads_create .table guard ((reads_nameNode name).bind ?_) fun _ => rfl
  rintro _ rfl
  refine (reads_bracketed (reads_listed (fun column _ => reads_column column) fun _ => rfl)
    fun _ => ⟨rfl, rfl⟩).map fun found same => ?_
  simp [SameButSpelling, map_withoutSpelling same]

theorem reads_createDatabase (guard : Guard) (name : Name) :
    Reads createDatabase (Statement.createDatabase guard name).marks
      (SameButSpelling · (Statement.createDatabase guard name).tree) (lacksWord "IF" · = true) :=
  reads_create .database guard
    ((reads_nameNode name).mono (fun _ same => same ▸ .refl _) fun _ _ => trivial) fun _ => rfl

theorem reads_drop (target : Target) (name : Name) :
    Reads Grammar.drop (Statement.drop target name).marks
      (SameButSpelling · (Statement.drop target name).tree) AnyMarks := by
  have word : Reads (wordNode .table "TABLE" <|> wordNode .database "DATABASE") [.word target.word]
      (fun tree => ∃ lexeme, tree = { token := target.token, lexeme }) AnyMarks := by
    cases target with
    | table => exact .orElse_left (reads_wordNode .table "TABLE")
    | database =>
        exact .orElse_right (fun _ _ => rejects_wordNode rfl) (reads_wordNode .database "DATABASE")
  refine (reads_word "DROP").cons fun _ _ => word.cons ?_
  rintro _ ⟨lexeme, rfl⟩
  refine (reads_nameNode name).map ?_
  rintro _ rfl
  cases target <;>
    simp [SameButSpelling, Statement.tree, Target.tree, Target.token, Token.isSpelled]

theorem reads_truncate (spoken : Bool) (name : Name) :
    Reads truncate (Statement.truncate spoken name).marks
      (SameButSpelling · (Statement.truncate spoken name).tree) AnyMarks := by
  refine (reads_word "TRUNCATE").cons fun _ _ => ?_
  refine (ReadsFrom.said (reads_word "TABLE").of_any fun _ => rejects_word).bindBefore
    (fun _ _ => ?_) fun _ _ => rfl
  refine (reads_nameNode name).map ?_
  rintro _ rfl
  exact .refl _

/-! ## Changes to rows -/

theorem reads_row (row : Row) : Reads tuple row.marks (SameButSpelling · row.tree) AnyMarks :=
  (reads_literals row.values).map fun _ same => by simp [SameButSpelling, Row.tree, same]

theorem reads_names (names : Several Name) :
    Reads (Grammar.listed nameNode) (listed Name.marks names) (· = names.toList.map Name.tree)
      (lacksSign ',' · = true) := by
  refine ReadsFrom.mono (reads_listed (fun name _ => reads_nameNode name) fun _ => trivial)
    (fun found same => ?_) fun _ behind => ⟨trivial, behind⟩
  rw [← List.forall₂_eq_eq_eq]
  exact List.forall₂_map_right_iff.mpr same

theorem reads_insert (name : Name) (columns : Option (Several Name)) (rows : Several Row) :
    Reads insert (Statement.insert name columns rows).marks
      (SameButSpelling · (Statement.insert name columns rows).tree) (lacksSign ',' · = true) := by
  refine (reads_word "INSERT").cons fun _ _ => (reads_word "INTO").cons fun _ _ => ?_
  refine (reads_nameNode name).bind ?_
  rintro _ rfl
  have names : Reads (Grammar.bracketed (Grammar.listed nameNode) <|> pure [])
      (given (fun names => bracketed (listed Name.marks names)) columns)
      (· = columns.elim [] fun names => names.toList.map Name.tree) (lacksSign '(' · = true) := by
    cases columns with
    | none => exact .orElse_right (fun _ lacks => (rejects_sign lacks).bind) (.pure rfl)
    | some columns =>
        exact .orElse_left ((reads_bracketed (reads_names columns) fun _ => rfl).of_any)
  refine names.bindBefore ?_ fun _ _ => rfl
  rintro _ rfl
  refine (reads_word "VALUES").cons fun _ _ => ?_
  refine ReadsFrom.map (.mono (reads_listed (fun row _ => reads_row row) fun _ => trivial)
    (fun _ same => same) fun _ behind => ⟨trivial, behind⟩) fun found same => ?_
  simp [SameButSpelling, Statement.tree, Token.isSpelled, map_withoutSpelling same]

theorem reads_assignment (change : Assignment) :
    Reads assignment change.marks (SameButSpelling · change.tree) AnyMarks := by
  refine (reads_nameNode change.column).bind ?_
  rintro _ rfl
  refine (reads_sign rfl).cons fun _ _ => (reads_literal change.value).map fun _ same => ?_
  simp [SameButSpelling, Assignment.tree, same.eq]

theorem reads_update (name : Name) (changes : Several Assignment) (filter : Option Condition) :
    Reads update (Statement.update name changes filter).marks
      (SameButSpelling · (Statement.update name changes filter).tree)
      fun others => lacksSign ',' others = true ∧ endsFilter others = true := by
  refine (reads_word "UPDATE").cons fun _ _ => (reads_nameNode name).bind ?_
  rintro _ rfl
  refine (reads_word "SET").cons fun _ _ => ?_
  refine (reads_listed (fun change _ => reads_assignment change) fun _ => trivial).bindBefore
    (fun found same => ?_) fun others behind => ⟨trivial, ?_⟩
  · refine ((reads_filter filter).mono (fun _ same => same) fun _ behind => behind.2).map ?_
    intro filtered same'
    simp [SameButSpelling, Statement.tree, Token.isSpelled, map_withoutSpelling same, same']
  · cases filter with
    | none => exact behind.1
    | some => rfl

theorem reads_delete (name : Name) (filter : Option Condition) :
    Reads delete (Statement.delete name filter).marks
      (SameButSpelling · (Statement.delete name filter).tree) (endsFilter · = true) := by
  refine (reads_word "DELETE").cons fun _ _ => (reads_word "FROM").cons fun _ _ => ?_
  refine (reads_nameNode name).bind ?_
  rintro _ rfl
  refine (reads_filter filter).map fun filtered same => ?_
  simp [SameButSpelling, Statement.tree, Token.isSpelled, same]

/-! ## Queries -/

theorem reads_projected (written : Projection) :
    Reads projected written.marks
      (fun found => found.map withoutSpelling = written.trees.map withoutSpelling)
      (lacksSign ',' · = true) := by
  cases written with
  | star =>
      refine .orElse_left ((reads_sign rfl).map fun _ _ => ?_).of_any
      rfl
  | count =>
      refine .orElse_right (fun _ _ => (rejects_sign rfl).bind) (.orElse_left ?_)
      refine (reads_word "COUNT").cons fun _ _ => ?_
      refine ((reads_bracketed (reads_sign rfl) fun _ => trivial).map fun _ _ => ?_).of_any
      simp [Projection.trees, Token.isSpelled]
  | columns names =>
      refine .orElse_right (fun _ _ => (rejects_sign rfl).bind) ?_
      refine .past (fun _ => rfl) ?_
      exact (reads_names names).mono (fun _ same => by rw [same]; rfl) fun _ behind => behind

theorem reads_direction (written : Direction) :
    Reads direction written.marks (SameButSpelling · written.tree)
      fun others => lacksWord "ASC" others = true ∧ lacksWord "DESC" others = true := by
  cases written with
  | ascending spoken =>
      cases spoken with
      | true => exact .orElse_left (reads_spelled rfl "ASC" _).of_any
      | false =>
          refine .orElse_right (fun _ behind => rejects_wordNode behind.1) ?_
          exact .orElse_right (fun _ behind => rejects_wordNode behind.2) (.pure (.refl _))
  | descending =>
      refine .orElse_right (fun _ _ => rejects_wordNode rfl) ?_
      exact .orElse_left (reads_spelled rfl "DESC" _).of_any

/-- Whether no further part of an order can follow. -/
def endsOrder (others : List Mark) : Bool :=
  lacksWord "ORDER" others && lacksWord "ASC" others && lacksWord "DESC" others

theorem reads_order (order : Option Order) :
    Reads (optional Grammar.order) (given Order.marks order)
      (fun found => found.toList.map withoutSpelling =
        (order.map Order.tree).toList.map withoutSpelling)
      (endsOrder · = true) := by
  have reads (order : Order) :
      Reads Grammar.order order.marks (SameButSpelling · order.tree)
        fun others => lacksWord "ASC" others = true ∧ lacksWord "DESC" others = true := by
    refine (reads_word "ORDER").cons fun _ _ => (reads_word "BY").cons fun _ _ => ?_
    refine (reads_nameNode order.column).bind ?_
    rintro _ rfl
    refine (reads_direction order.direction).map fun _ same => ?_
    simp [SameButSpelling, Order.tree, Token.isSpelled, same.eq]
  refine ReadsFrom.mono (.optionally (fun order _ => (reads order).mono (fun _ same => same) ?_) ?_)
    (fun _ same => toList_withoutSpelling same) fun _ behind => behind
  · intro others behind
    simp only [endsOrder, Bool.and_eq_true] at behind
    exact ⟨behind.1.2, behind.2⟩
  · intro others behind
    simp only [endsOrder, Bool.and_eq_true] at behind
    exact (rejects_word behind.1.1).bind

theorem reads_rowCount {token : Token} (spelled : token.isSpelled = true) (expected : String)
    (count : Option Digits) :
    Reads (optional (rowCount token expected)) (given (rowCountMarks expected) count)
      (fun found => found.toList.map withoutSpelling =
        (count.map (rowCountTree token expected)).toList.map withoutSpelling)
      (lacksWord expected · = true) := by
  refine ReadsFrom.mono (.optionally (fun count _ => ?_) fun _ lacks => (rejects_word lacks).bind)
    (fun _ same => toList_withoutSpelling same) fun _ behind => behind
  refine (reads_word expected).cons fun _ _ => ((reads_digits count).map ?_).of_any
  rintro _ rfl
  simp [SameButSpelling, rowCountTree, Digits.tree, spelled]

theorem reads_select (query : Query) :
    Reads select query.marks (SameButSpelling · query.tree) (· = []) := by
  obtain ⟨projection, table, filter, order, limit, offset⟩ := query
  refine (reads_word "SELECT").cons fun _ _ => ?_
  refine (reads_projected projection).bindBefore (fun columns same => ?_) fun _ _ => rfl
  refine (reads_word "FROM").cons fun _ _ => (reads_nameNode table).bind ?_
  rintro _ rfl
  refine (reads_filter filter).bindBefore (fun filter' same_filter => ?_) ?_
  · refine (reads_order order).bindBefore (fun order' same_order => ?_) ?_
    · refine (reads_rowCount rfl "LIMIT" limit).bindBefore (fun limit' same_limit => ?_) ?_
      · refine ((reads_rowCount rfl "OFFSET" offset).mono (fun _ same => same) ?_).map ?_
        · rintro _ rfl
          rfl
        · intro offset' same_offset
          simp [SameButSpelling, Query.tree, Token.isSpelled, same, same_filter, same_order,
            same_limit, same_offset]
      · rintro _ rfl
        cases offset <;> rfl
    · rintro _ rfl
      cases limit <;> cases offset <;> rfl
  · rintro _ rfl
    cases order <;> cases limit <;> cases offset <;> rfl

/-! ## Statements -/

theorem reads_control {token : Token} (spelled : token.isSpelled = true) (expected : String)
    (spoken : Bool) (lexeme : String) :
    Reads (control token expected) (Statement.controlMarks expected spoken)
      (SameButSpelling · { token, lexeme }) (lacksWord "TRANSACTION" · = true) := by
  refine (reads_spelled spelled expected lexeme).cons fun _ same => ?_
  exact ReadsFrom.map (.said (reads_word "TRANSACTION").of_any fun _ => rejects_word)
    fun _ _ => same

theorem reads_begin (spoken : Bool) :
    Reads begin (Statement.begin spoken).marks (SameButSpelling · (Statement.begin spoken).tree)
      (lacksWord "TRANSACTION" · = true) :=
  .orElse_left (reads_control rfl "BEGIN" spoken _)

theorem reads_start :
    Reads begin Statement.start.marks (SameButSpelling · Statement.start.tree) AnyMarks := by
  refine .orElse_right (fun _ _ => (rejects_wordNode rfl).bind) ?_
  refine (reads_spelled rfl "START" "BEGIN").cons fun _ same => ?_
  exact (reads_word "TRANSACTION").map fun _ _ => same

theorem rejects_begin {marks : List Mark} (lacks : lacksWord "BEGIN" marks = true)
    (lacks' : lacksWord "START" marks = true) : Rejects begin marks :=
  (rejects_wordNode lacks).bind.orElse (rejects_wordNode lacks').bind

/-- The statements about tables and rows start with words of their own. -/
theorem past_rows {first : String} {rest : List Mark} {meaning : Tree → Prop}
    {next : List Mark → Prop} {controls : Scan Tree}
    (lacks : (["CREATE", "DROP", "TRUNCATE", "INSERT", "SELECT", "UPDATE", "DELETE"].all
      (lacksWord · [.word first])) = true)
    (reads : Reads controls (.word first :: rest) meaning next) :
    Reads (createTable <|> createDatabase <|> drop <|> truncate <|> insert <|> select <|> update
      <|> delete <|> controls) (.word first :: rest) meaning next := by
  simp only [List.all_cons, List.all_nil, Bool.and_true, Bool.and_eq_true] at lacks
  obtain ⟨create, drop, truncate, insert, select, update, delete⟩ := lacks
  refine .past (fun _ => create) (.past (fun _ => create) (.past (fun _ => drop) ?_))
  refine .past (fun _ => truncate) (.past (fun _ => insert) (.past (fun _ => select) ?_))
  exact .past (fun _ => update) (.past (fun _ => delete) reads)

/-- Every wording of a statement is read as its tree. -/
theorem reads_statement (written : Statement) :
    Reads statement written.marks (SameButSpelling · written.tree) (· = []) := by
  have ends {α : Type} {item : Scan α} {marks : List Mark} {meaning : α → Prop}
      {next : List Mark → Prop} (reads : Reads item marks meaning next) (last : next []) :
      Reads item marks meaning (· = []) :=
    reads.mono (fun _ means => means) fun _ done => done ▸ last
  cases written with
  | createTable guard name columns =>
      exact .orElse_left (ends (reads_createTable guard name columns) rfl)
  | createDatabase guard name =>
      refine .orElse_right (fun _ _ => ?_) ?_
      · exact (reads_word "CREATE").rejects_cons fun _ _ => (rejects_word rfl).bind
      · exact .orElse_left (ends (reads_createDatabase guard name) rfl)
  | drop target name =>
      refine .past (fun _ => rfl) (.past (fun _ => rfl) ?_)
      exact .orElse_left (reads_drop target name).of_any
  | truncate spoken name =>
      refine .past (fun _ => rfl) (.past (fun _ => rfl) (.past (fun _ => rfl) ?_))
      exact .orElse_left (reads_truncate spoken name).of_any
  | insert name columns rows =>
      refine .past (fun _ => rfl) (.past (fun _ => rfl) (.past (fun _ => rfl) ?_))
      refine .past (fun _ => rfl) ?_
      exact .orElse_left (ends (reads_insert name columns rows) rfl)
  | select query =>
      refine .past (fun _ => rfl) (.past (fun _ => rfl) (.past (fun _ => rfl) ?_))
      refine .past (fun _ => rfl) (.past (fun _ => rfl) ?_)
      exact .orElse_left (reads_select query)
  | update name changes filter =>
      refine .past (fun _ => rfl) (.past (fun _ => rfl) (.past (fun _ => rfl) ?_))
      refine .past (fun _ => rfl) (.past (fun _ => rfl) (.past (fun _ => rfl) ?_))
      exact .orElse_left (ends (reads_update name changes filter) ⟨rfl, rfl⟩)
  | delete name filter =>
      refine .past (fun _ => rfl) (.past (fun _ => rfl) (.past (fun _ => rfl) ?_))
      refine .past (fun _ => rfl) (.past (fun _ => rfl) (.past (fun _ => rfl) ?_))
      refine .past (fun _ => rfl) ?_
      exact .orElse_left (ends (reads_delete name filter) rfl)
  | begin spoken =>
      refine past_rows rfl ?_
      exact .orElse_left (ends (reads_begin spoken) rfl)
  | start =>
      refine past_rows rfl ?_
      exact .orElse_left reads_start.of_any
  | commit spoken =>
      refine past_rows rfl ?_
      exact .orElse_right (fun _ _ => rejects_begin rfl rfl)
        (.orElse_left (ends (reads_control rfl "COMMIT" spoken _) rfl))
  | rollback spoken =>
      refine past_rows rfl ?_
      refine .orElse_right (fun _ _ => rejects_begin rfl rfl) ?_
      exact .orElse_right (fun _ _ => (rejects_wordNode rfl).bind)
        (ends (reads_control rfl "ROLLBACK" spoken _) rfl)

/-- However a statement is worded and written, it is read as its tree, up to the spelling of the
words of the language. -/
theorem parse_of_written (statement : Statement) (text : String)
    (written : Written statement.marks text.toList) :
    ∃ tree, Script.parseStatement text = .ok tree ∧ tree.SameButSpelling statement.tree := by
  have trimmed := written.trim
  rw [← List.append_nil statement.marks] at trimmed
  obtain ⟨tree, left, read, same, rest, -⟩ := reads_statement statement rfl trivial trimmed
  refine ⟨tree, ?_, same⟩
  have empty : Text.trim left = [] := by
    cases rest with
    | blank spaces =>
        rw [Text.trim_eq, Text.trimStart, List.dropWhile_eq_nil_iff.mpr fun c member =>
          Text.isBlank_of_isSpace (spaces c member), List.rdropWhile_nil]
  rw [Script.parseStatement, Script.ofTrimmed, read]
  simp only [empty, List.isEmpty_nil, if_true]

/-- Words in odd case, a name between back quotes, a doubled quote, and blanks only where words
would run together. -/
theorem parse_of_odd_writing :
    let column : Name := ⟨['a', '\x22'], .inr (by decide)⟩
    let table : Name := ⟨['t'], .inl (by decide)⟩
    let test : Test := .compares column .unlike (.string ['i', 't', '\x27', 's'])
    let statement : Statement := .delete table (some ⟨⟨⟨⟨test, []⟩⟩, []⟩⟩)
    let text := "dElEtE\n\tFROM\x22t\x22where\x60a\x22\x60<>'it''s' \r\n"
    Written statement.marks text.toList ∧
      ∃ tree, Script.parseStatement text = .ok tree ∧ tree.SameButSpelling statement.tree := by
  intro column table test statement text
  have word {expected written : String} (some : written.toList ≠ [])
      (letters : written.toList.all isLetter = true)
      (same : caseless written.toList = caseless expected.toList) :
      (Mark.word expected).Spelled written.toList :=
    .word some (List.all_eq_true.mp letters) same
  have end_of_line : Written [] " \r\n".toList := .blank (List.all_eq_true.mp (by decide))
  have string : Written [.string _] "'it''s' \r\n".toList :=
    .ofTests [] _ (by decide) (.string ['i', 't', '\x27', 's']) (by decide) end_of_line
  have compares : Written test.marks "\x60a\x22\x60<>'it''s' \r\n".toList :=
    .ofTests [] _ (by decide) (.backQuoted (by decide)) (by decide)
      (.ofTests [] _ (by decide) (.sign _) (by decide) string)
  have filter : Written (.word "WHERE" :: test.marks) "where\x60a\x22\x60<>'it''s' \r\n".toList :=
    .ofTests [] "where".toList (by decide) (word (by decide) (by decide) (by decide)) (by decide)
      compares
  have source : Written (.word "FROM" :: .name table :: .word "WHERE" :: test.marks)
      "\n\tFROM\x22t\x22where\x60a\x22\x60<>'it''s' \r\n".toList :=
    .ofTests ['\n', '\t'] "FROM".toList (by decide) (word (by decide) (by decide) (by decide))
      (by decide) (.ofTests [] _ (by decide) (.quoted (by decide)) (by decide) filter)
  have split : text.toList = "dElEtE".toList ++
      "\n\tFROM\x22t\x22where\x60a\x22\x60<>'it''s' \r\n".toList := by decide
  have written : Written statement.marks text.toList := by
    rw [split]
    exact .ofTests [] "dElEtE".toList (by decide) (word (by decide) (by decide) (by decide))
      (by decide) source
  exact ⟨written, parse_of_written statement text written⟩

end Wording
end SqlEngine
