import SqlEngine.Grammar.Words

/-!
# Wordings of statements

A statement can be worded in several ways: some words may be left out, some words have a second
form, and the guard of a target may stand in front of it or behind it.  A wording settles all of
these.  It has a tree, which is what the statement says, and a list of marks, which are the words,
signs, names and literals that it consists of.  How the marks are written down is left open.
-/

namespace SqlEngine
namespace Wording

/-- A list with at least one item, as all lists are that have commas, AND or OR between their items.
-/
structure Several (α : Type) where
  /-- The first item. -/
  first : α
  /-- The items behind it. -/
  others : List α

namespace Several

variable {α β : Type}

/-- All items. -/
def toList (items : Several α) : List α :=
  items.first :: items.others

/-- Another item in place of each. -/
def map (change : α → β) (items : Several α) : Several β :=
  ⟨change items.first, items.others.map change⟩

end Several

/-! ## Marks -/

/-- At least one digit. -/
structure Digits where
  /-- The digits. -/
  chars : List Char
  /-- There is one. -/
  nonempty : chars ≠ []
  /-- All are digits. -/
  digits : ∀ c ∈ chars, c.isDigit = true

/-- A number with an optional minus sign and an optional fraction. -/
structure Number where
  /-- Whether there is a minus sign. -/
  minus : Bool
  /-- The digits in front of the point. -/
  whole : Digits
  /-- The digits behind the point, if there is one. -/
  fraction : Option Digits

/-- The characters of a number. -/
def Number.chars (number : Number) : List Char :=
  (if number.minus then ['-'] else []) ++ number.whole.chars ++
    number.fraction.elim [] fun places => '.' :: places.chars

/-- A name that one of the two quotes of names does not occur in. -/
structure Name where
  /-- The characters of the name. -/
  content : List Char
  /-- The name can stand between quotes, or between back quotes. -/
  quotable : '\x22' ∉ content ∨ '\x60' ∉ content

/-- A name that needs no quotes: a word that is not reserved. -/
structure BareName where
  /-- The first character. -/
  first : Char
  /-- The other characters. -/
  others : List Char
  /-- The first character is a letter or an underscore. -/
  starts : (first.isAlpha || first == '_') = true
  /-- The others are letters, digits or underscores. -/
  continues : ∀ c ∈ others, (c.isAlphanum || c == '_') = true
  /-- The word is not reserved. -/
  free : Grammar.reserved.contains (Text.upperCase (String.ofList (first :: others))) = false

/-- The characters of a name without quotes. -/
def BareName.chars (name : BareName) : List Char :=
  name.first :: name.others

/-- A sign that compares a column with a value. -/
inductive Comparison where
  /-- The sign =. -/
  | equal
  /-- The sign !=. -/
  | notEqual
  /-- The sign <>. -/
  | unlike
  /-- The sign <. -/
  | less
  /-- The sign <=. -/
  | lessOrEqual
  /-- The sign >. -/
  | greater
  /-- The sign >=. -/
  | greaterOrEqual

namespace Comparison

/-- The sign as it is written. -/
def text : Comparison → String
  | equal => "="
  | notEqual => "!="
  | unlike => "<>"
  | less => "<"
  | lessOrEqual => "<="
  | greater => ">"
  | greaterOrEqual => ">="

/-- What a comparison says; two signs say the same. -/
def token : Comparison → Token
  | equal => .equal
  | notEqual | unlike => .notEqual
  | less => .less
  | lessOrEqual => .lessOrEqual
  | greater => .greater
  | greaterOrEqual => .greaterOrEqual

end Comparison

/-- A sign of the language. -/
inductive Sign where
  /-- The bracket that opens. -/
  | opening
  /-- The bracket that closes. -/
  | closing
  /-- The comma. -/
  | comma
  /-- The star. -/
  | star
  /-- A sign that compares or assigns. -/
  | comparison (kind : Comparison)

/-- The characters of a sign. -/
def Sign.chars : Sign → List Char
  | opening => ['(']
  | closing => [')']
  | comma => [',']
  | star => ['*']
  | comparison kind => kind.text.toList

/-- A part of a statement that is written without blanks inside. -/
inductive Mark where
  /-- A word of the language. -/
  | word (expected : String)
  /-- A sign. -/
  | sign (written : Sign)
  /-- A name between quotes. -/
  | name (written : Name)
  /-- A name without quotes. -/
  | bareName (written : BareName)
  /-- A string. -/
  | string (content : List Char)
  /-- A number. -/
  | number (written : Number)

/-- A word that may be left out. -/
def said (present : Bool) (marks : List Mark) : List Mark :=
  if present then marks else []

/-- A part that may be left out. -/
def given {α : Type} (marks : α → List Mark) (part : Option α) : List Mark :=
  part.elim [] marks

/-- Items with a mark between them. -/
def separated {α : Type} (between : Mark) (marks : α → List Mark) (items : Several α) : List Mark :=
  marks items.first ++ items.others.flatMap fun item => between :: marks item

/-- Items with commas between them. -/
def listed {α : Type} (marks : α → List Mark) (items : Several α) : List Mark :=
  separated (.sign .comma) marks items

/-- Marks between brackets. -/
def bracketed (marks : List Mark) : List Mark :=
  .sign .opening :: (marks ++ [.sign .closing])

/-! ## Names and literals -/

/-- The text of a name. -/
def Name.text (name : Name) : String :=
  String.ofList name.content

/-- The tree of a name. -/
def Name.tree (name : Name) : Tree :=
  { token := .identifier, lexeme := name.text }

/-- The marks of a name. -/
def Name.marks (name : Name) : List Mark :=
  [.name name]

/-- The tree of a number of digits. -/
def Digits.tree (digits : Digits) : Tree :=
  { token := .number, lexeme := String.ofList digits.chars }

/-- The marks of a number of digits. -/
def Digits.marks (digits : Digits) : List Mark :=
  [.number ⟨false, digits, none⟩]

/-- A literal. -/
inductive Literal where
  /-- The null. -/
  | null
  /-- A truth value. -/
  | boolean (truth : Bool)
  /-- The current time, as a call or as one word. -/
  | now (called : Bool)
  /-- A string. -/
  | string (content : List Char)
  /-- A number. -/
  | number (written : Number)

namespace Literal

/-- The tree of a literal. -/
def tree : Literal → Tree
  | null => { token := .nullWord, lexeme := "NULL" }
  | boolean true => { token := .trueWord, lexeme := "TRUE" }
  | boolean false => { token := .falseWord, lexeme := "FALSE" }
  | now _ => { token := .now, lexeme := "NOW()" }
  | string content => { token := .stringLit, lexeme := String.ofList content }
  | number written => { token := .number, lexeme := String.ofList written.chars }

/-- The marks of a literal. -/
def marks : Literal → List Mark
  | null => [.word "NULL"]
  | boolean true => [.word "TRUE"]
  | boolean false => [.word "FALSE"]
  | now true => .word "NOW" :: bracketed []
  | now false => [.word "CURRENT_TIMESTAMP"]
  | string content => [.string content]
  | number written => [.number written]

end Literal

/-! ## Conditions -/

/-- A test of one column. -/
inductive Test where
  /-- The column has no value. -/
  | isNull (column : Name)
  /-- The column has a value. -/
  | isNotNull (column : Name)
  /-- The value of the column is in a list. -/
  | isIn (column : Name) (values : Several Literal)
  /-- The text of the column matches a pattern. -/
  | isLike (column : Name) (pattern : Literal)
  /-- The value of the column compares with another. -/
  | compares (column : Name) (comparison : Comparison) (value : Literal)

namespace Test

/-- The tree of a test. -/
def tree : Test → Tree
  | isNull column => { token := .isNull, lexeme := "IS NULL", children := [column.tree] }
  | isNotNull column => { token := .isNotNull, lexeme := "IS NOT NULL", children := [column.tree] }
  | isIn column values =>
    { token := .inList, lexeme := "IN", children := column.tree :: values.toList.map Literal.tree }
  | isLike column pattern =>
    { token := .like, lexeme := "LIKE", children := [column.tree, pattern.tree] }
  | compares column comparison value =>
    { token := comparison.token, lexeme := comparison.text, children := [column.tree, value.tree] }

/-- The marks of a test. -/
def marks : Test → List Mark
  | isNull column => column.marks ++ [.word "IS", .word "NULL"]
  | isNotNull column => column.marks ++ [.word "IS", .word "NOT", .word "NULL"]
  | isIn column values =>
    column.marks ++ .word "IN" :: bracketed (listed Literal.marks values)
  | isLike column pattern => column.marks ++ .word "LIKE" :: pattern.marks
  | compares column comparison value =>
    column.marks ++ .sign (.comparison comparison) :: value.marks

end Test

/-- One tree for several: the only one, or a node above them. -/
def Several.joined (token : Token) (lexeme : String) (trees : Several Tree) : Tree :=
  match trees.others with
  | [] => trees.first
  | _ :: _ => { token, lexeme, children := trees.toList }

/-- Tests joined by AND. -/
structure Group where
  /-- The tests. -/
  tests : Several Test

namespace Group

/-- The tree of a group. -/
def tree (group : Group) : Tree :=
  (group.tests.map Test.tree).joined .allOf "AND"

/-- The marks of a group. -/
def marks (group : Group) : List Mark :=
  separated (.word "AND") Test.marks group.tests

end Group

/-- Groups joined by OR. -/
structure Condition where
  /-- The groups. -/
  groups : Several Group

namespace Condition

/-- The tree of a condition on rows. -/
def tree (condition : Condition) : Tree :=
  { token := .whereClause
    lexeme := "WHERE"
    children := [(condition.groups.map Group.tree).joined .anyOf "OR"] }

/-- The marks of a condition on rows. -/
def marks (condition : Condition) : List Mark :=
  .word "WHERE" :: separated (.word "OR") Group.marks condition.groups

end Condition

/-! ## Definitions of tables -/

/-- A constraint of a column. -/
inductive Constraint where
  /-- The column has no null. -/
  | notNull
  /-- The column is the key. -/
  | primaryKey
  /-- The column has no value twice. -/
  | unique
  /-- The column numbers its rows; an underscore may part the word. -/
  | autoIncrement (parted : Bool)
  /-- The column has a value where a row gives none. -/
  | default (value : Literal)
  /-- The column may have nulls, which says nothing. -/
  | null

namespace Constraint

/-- The tree of a constraint, if it says anything. -/
def tree? : Constraint → Option Tree
  | notNull => some { token := .notNull, lexeme := "NOT NULL" }
  | primaryKey => some { token := .primaryKey, lexeme := "PRIMARY KEY" }
  | unique => some { token := .unique, lexeme := "UNIQUE" }
  | autoIncrement _ => some { token := .autoIncrement, lexeme := "AUTOINCREMENT" }
  | default value => some { token := .defaultValue, lexeme := "DEFAULT", children := [value.tree] }
  | null => none

/-- The marks of a constraint. -/
def marks : Constraint → List Mark
  | notNull => [.word "NOT", .word "NULL"]
  | primaryKey => [.word "PRIMARY", .word "KEY"]
  | unique => [.word "UNIQUE"]
  | autoIncrement false => [.word "AUTOINCREMENT"]
  | autoIncrement true => [.word "AUTO_INCREMENT"]
  | default value => .word "DEFAULT" :: value.marks
  | null => [.word "NULL"]

end Constraint

/-- The name of a type. -/
inductive TypeName where
  /-- A name between quotes. -/
  | quoted (name : Name)
  /-- A name without quotes. -/
  | bare (name : BareName)

namespace TypeName

/-- The text of the name of a type. -/
def text : TypeName → String
  | quoted name => name.text
  | bare name => String.ofList name.chars

/-- The marks of the name of a type. -/
def marks : TypeName → List Mark
  | quoted name => [.name name]
  | bare name => [.bareName name]

end TypeName

/-- The length of a type, with a number of places that means nothing. -/
structure Length where
  /-- The length. -/
  length : Digits
  /-- The number of places. -/
  places : Option Digits

/-- The marks of the length of a type. -/
def Length.marks (length : Length) : List Mark :=
  bracketed (length.length.marks ++
    given (fun places => .sign .comma :: places.marks) length.places)

/-- A column of a new table. -/
structure Column where
  /-- The name of the column. -/
  name : Name
  /-- The name of its type. -/
  type : TypeName
  /-- The length of its type. -/
  length : Option Length
  /-- Whether the word PRECISION stands behind the type. -/
  precision : Bool
  /-- The constraints. -/
  constraints : List Constraint

namespace Column

/-- The tree of the type of a column. -/
def typeTree (column : Column) : Tree :=
  { token := .typeName
    lexeme := column.type.text
    children := (column.length.map fun length => length.length.tree).toList }

/-- The marks of the type of a column. -/
def typeMarks (column : Column) : List Mark :=
  column.type.marks ++
    (given Length.marks column.length ++ said column.precision [.word "PRECISION"])

/-- The tree of a column. -/
def tree (column : Column) : Tree :=
  { token := .columnDef
    lexeme := column.name.text
    children := column.typeTree :: column.constraints.filterMap Constraint.tree? }

/-- The marks of a column. -/
def marks (column : Column) : List Mark :=
  column.name.marks ++ (column.typeMarks ++ column.constraints.flatMap Constraint.marks)

end Column

/-- The places of the guard of a target that may exist already. -/
structure Guard where
  /-- Whether it stands in front of the target. -/
  before : Bool
  /-- Whether it stands behind the target. -/
  behind : Bool

namespace Guard

/-- The marks of one guard. -/
def marks : List Mark :=
  [.word "IF", .word "NOT", .word "EXISTS"]

/-- The tree of a guard, if it stands anywhere. -/
def trees (guard : Guard) : List Tree :=
  if guard.before || guard.behind then [{ token := .ifNotExists, lexeme := "IF NOT EXISTS" }]
  else []

end Guard

/-! ## Queries -/

/-- What a query shows. -/
inductive Projection where
  /-- All columns. -/
  | star
  /-- The number of rows. -/
  | count
  /-- Columns by name. -/
  | columns (names : Several Name)

namespace Projection

/-- The trees of what a query shows. -/
def trees : Projection → List Tree
  | star => [{ token := .star, lexeme := "*" }]
  | count => [{ token := .count, lexeme := "COUNT" }]
  | columns names => names.toList.map Name.tree

/-- The marks of what a query shows. -/
def marks : Projection → List Mark
  | star => [.sign .star]
  | count => .word "COUNT" :: bracketed [.sign .star]
  | columns names => listed Name.marks names

end Projection

/-- A direction of an order. -/
inductive Direction where
  /-- From low to high, which need not be said. -/
  | ascending (spoken : Bool)
  /-- From high to low. -/
  | descending

namespace Direction

/-- The tree of a direction. -/
def tree : Direction → Tree
  | ascending _ => { token := .asc, lexeme := "ASC" }
  | descending => { token := .desc, lexeme := "DESC" }

/-- The marks of a direction. -/
def marks : Direction → List Mark
  | ascending spoken => said spoken [.word "ASC"]
  | descending => [.word "DESC"]

end Direction

/-- The column that rows are ordered by. -/
structure Order where
  /-- The column. -/
  column : Name
  /-- The direction. -/
  direction : Direction

namespace Order

/-- The tree of an order. -/
def tree (order : Order) : Tree :=
  { token := .order
    lexeme := "ORDER"
    children := [{ order.column.tree with children := [order.direction.tree] }] }

/-- The marks of an order. -/
def marks (order : Order) : List Mark :=
  .word "ORDER" :: .word "BY" :: (order.column.marks ++ order.direction.marks)

end Order

/-- The tree of a number of rows behind a word. -/
def rowCountTree (token : Token) (lexeme : String) (count : Digits) : Tree :=
  { token, lexeme, children := [count.tree] }

/-- The marks of a number of rows behind a word. -/
def rowCountMarks (expected : String) (count : Digits) : List Mark :=
  .word expected :: count.marks

/-- A query. -/
structure Query where
  /-- What to show. -/
  projection : Projection
  /-- The table. -/
  table : Name
  /-- The condition on rows. -/
  filter : Option Condition
  /-- The order of rows. -/
  order : Option Order
  /-- The most rows to show. -/
  limit : Option Digits
  /-- The number of rows to skip. -/
  offset : Option Digits

namespace Query

/-- The tree of a query. -/
def tree (query : Query) : Tree :=
  { token := .select
    lexeme := "SELECT"
    children := [{ token := .projection, lexeme := "", children := query.projection.trees },
      { token := .fromTable, lexeme := "FROM", children := [query.table.tree] }]
      ++ (query.filter.map Condition.tree).toList ++ (query.order.map Order.tree).toList
      ++ (query.limit.map (rowCountTree .limit "LIMIT")).toList
      ++ (query.offset.map (rowCountTree .offset "OFFSET")).toList }

/-- The marks of a query. -/
def marks (query : Query) : List Mark :=
  .word "SELECT" :: (query.projection.marks ++ .word "FROM" :: (query.table.marks ++
    (given Condition.marks query.filter ++ (given Order.marks query.order ++
      (given (rowCountMarks "LIMIT") query.limit ++
        given (rowCountMarks "OFFSET") query.offset)))))

end Query

/-! ## Changes to rows -/

/-- The values of one row. -/
structure Row where
  /-- The values. -/
  values : Several Literal

namespace Row

/-- The tree of a row. -/
def tree (row : Row) : Tree :=
  { token := .tuple, lexeme := "()", children := row.values.toList.map Literal.tree }

/-- The marks of a row. -/
def marks (row : Row) : List Mark :=
  bracketed (listed Literal.marks row.values)

end Row

/-- One change to a row. -/
structure Assignment where
  /-- The column. -/
  column : Name
  /-- Its new value. -/
  value : Literal

namespace Assignment

/-- The tree of a change to a row. -/
def tree (change : Assignment) : Tree :=
  { token := .assign, lexeme := "=", children := [change.column.tree, change.value.tree] }

/-- The marks of a change to a row. -/
def marks (change : Assignment) : List Mark :=
  change.column.marks ++ .sign (.comparison .equal) :: change.value.marks

end Assignment

/-! ## Statements -/

/-- What a statement makes or removes. -/
inductive Target where
  /-- A table. -/
  | table
  /-- A database. -/
  | database

namespace Target

/-- The word for a target. -/
def word : Target → String
  | table => "TABLE"
  | database => "DATABASE"

/-- The token of a target. -/
def token : Target → Token
  | table => .table
  | database => .database

/-- The tree of a target with what lies below it. -/
def tree (target : Target) (children : List Tree) : Tree :=
  { token := target.token, lexeme := target.word, children }

end Target

/-- A statement. -/
inductive Statement where
  /-- Makes a table. -/
  | createTable (guard : Guard) (name : Name) (columns : Several Column)
  /-- Acknowledges a database. -/
  | createDatabase (guard : Guard) (name : Name)
  /-- Removes a target. -/
  | drop (target : Target) (name : Name)
  /-- Empties a table; the word TABLE need not be said. -/
  | truncate (spoken : Bool) (name : Name)
  /-- Adds rows. -/
  | insert (name : Name) (columns : Option (Several Name)) (rows : Several Row)
  /-- Shows rows. -/
  | select (query : Query)
  /-- Changes rows. -/
  | update (name : Name) (changes : Several Assignment) (filter : Option Condition)
  /-- Removes rows. -/
  | delete (name : Name) (filter : Option Condition)
  /-- Opens a transaction. -/
  | begin (spoken : Bool)
  /-- Opens a transaction in other words. -/
  | start
  /-- Applies a transaction. -/
  | commit (spoken : Bool)
  /-- Gives up a transaction. -/
  | rollback (spoken : Bool)

namespace Statement

/-- The tree of a statement. -/
def tree : Statement → Tree
  | createTable guard name columns =>
    { token := .create
      lexeme := "CREATE"
      children := [Target.table.tree (guard.trees ++
        [{ name.tree with children := columns.toList.map Column.tree }])] }
  | createDatabase guard name =>
    { token := .create
      lexeme := "CREATE"
      children := [Target.database.tree (guard.trees ++ [name.tree])] }
  | drop target name =>
    { token := .drop, lexeme := "DROP", children := [target.tree [name.tree]] }
  | truncate _ name =>
    { token := .truncate, lexeme := "TRUNCATE", children := [Target.table.tree [name.tree]] }
  | insert name columns rows =>
    { token := .insert
      lexeme := "INSERT"
      children := [
        { token := .into
          lexeme := "INTO"
          children := [{ name.tree with
            children := columns.elim [] fun names => names.toList.map Name.tree }] },
        { token := .values, lexeme := "VALUES", children := rows.toList.map Row.tree }] }
  | select query => query.tree
  | update name changes filter =>
    { token := .update
      lexeme := "UPDATE"
      children := [name.tree,
        { token := .assignments
          lexeme := "SET"
          children := changes.toList.map Assignment.tree }]
        ++ (filter.map Condition.tree).toList }
  | delete name filter =>
    { token := .delete
      lexeme := "DELETE"
      children := { token := .fromTable, lexeme := "FROM", children := [name.tree] }
        :: (filter.map Condition.tree).toList }
  | begin _ | start => { token := .beginTx, lexeme := "BEGIN" }
  | commit _ => { token := .commit, lexeme := "COMMIT" }
  | rollback _ => { token := .rollback, lexeme := "ROLLBACK" }

/-- The marks of a statement that makes a target, with its guard. -/
def createMarks (target : Target) (guard : Guard) (named : List Mark) : List Mark :=
  .word "CREATE" :: .word target.word :: (said guard.before Guard.marks ++
    (named ++ said guard.behind Guard.marks))

/-- The marks of a word with TRANSACTION behind it. -/
def controlMarks (expected : String) (spoken : Bool) : List Mark :=
  .word expected :: said spoken [.word "TRANSACTION"]

/-- The marks of a statement. -/
def marks : Statement → List Mark
  | createTable guard name columns =>
    createMarks .table guard (name.marks ++ bracketed (listed Column.marks columns))
  | createDatabase guard name => createMarks .database guard name.marks
  | drop target name => .word "DROP" :: .word target.word :: name.marks
  | truncate spoken name => .word "TRUNCATE" :: (said spoken [.word "TABLE"] ++ name.marks)
  | insert name columns rows =>
    .word "INSERT" :: .word "INTO" :: (name.marks ++
      (given (fun names => bracketed (listed Name.marks names)) columns ++
        .word "VALUES" :: listed Row.marks rows))
  | select query => query.marks
  | update name changes filter =>
    .word "UPDATE" :: (name.marks ++ .word "SET" :: (listed Assignment.marks changes ++
      given Condition.marks filter))
  | delete name filter =>
    .word "DELETE" :: .word "FROM" :: (name.marks ++ given Condition.marks filter)
  | begin spoken => controlMarks "BEGIN" spoken
  | start => [.word "START", .word "TRANSACTION"]
  | commit spoken => controlMarks "COMMIT" spoken
  | rollback spoken => controlMarks "ROLLBACK" spoken

end Statement
end Wording
end SqlEngine
