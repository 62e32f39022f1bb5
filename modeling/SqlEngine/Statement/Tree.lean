/-!
# Statement trees

A statement is a tree whose nodes carry a token, which says what the node is, and a lexeme, the text
it was read from.  The token of the root names the statement; the children are its clauses, operands
and literals.
-/

namespace SqlEngine

/-- What a node of a statement is. -/
inductive Token where
  /-- A statement that makes a table or acknowledges a database. -/
  | create
  /-- A statement that removes a table. -/
  | drop
  /-- A statement that empties a table. -/
  | truncate
  /-- A statement that adds rows. -/
  | insert
  /-- A query. -/
  | select
  /-- A statement that changes rows. -/
  | update
  /-- A statement that removes rows. -/
  | delete
  /-- A statement that opens a transaction. -/
  | beginTx
  /-- A statement that applies a transaction. -/
  | commit
  /-- A statement that gives up a transaction. -/
  | rollback
  /-- A database as the target of a statement. -/
  | database
  /-- A table as the target of a statement. -/
  | table
  /-- The guard of a target that may exist already. -/
  | ifNotExists
  /-- A name. -/
  | identifier
  /-- A column of a new table. -/
  | columnDef
  /-- The type of a column. -/
  | typeName
  /-- The constraint that a column has no null. -/
  | notNull
  /-- The constraint that a column is the key. -/
  | primaryKey
  /-- The constraint that a column has no value twice. -/
  | unique
  /-- The constraint that a column numbers its rows. -/
  | autoIncrement
  /-- The value of a column that a row does not give. -/
  | defaultValue
  /-- The table that rows go into. -/
  | into
  /-- The rows to add. -/
  | values
  /-- One row to add. -/
  | tuple
  /-- The columns of a query. -/
  | projection
  /-- All columns. -/
  | star
  /-- The number of rows. -/
  | count
  /-- The table that rows come from. -/
  | fromTable
  /-- The condition on rows. -/
  | whereClause
  /-- The changes to a row. -/
  | assignments
  /-- One change to a row. -/
  | assign
  /-- The column that rows are ordered by. -/
  | order
  /-- The order from low to high. -/
  | asc
  /-- The order from high to low. -/
  | desc
  /-- The most rows of an answer. -/
  | limit
  /-- The rows of an answer to skip. -/
  | offset
  /-- All of several conditions. -/
  | allOf
  /-- Any of several conditions. -/
  | anyOf
  /-- The comparison =. -/
  | equal
  /-- The comparison != or <>. -/
  | notEqual
  /-- The comparison <. -/
  | less
  /-- The comparison <=. -/
  | lessOrEqual
  /-- The comparison >. -/
  | greater
  /-- The comparison >=. -/
  | greaterOrEqual
  /-- A match with a pattern. -/
  | like
  /-- Membership in a list. -/
  | inList
  /-- The test for null. -/
  | isNull
  /-- The test for a value. -/
  | isNotNull
  /-- A number. -/
  | number
  /-- A string. -/
  | stringLit
  /-- The truth value true. -/
  | trueWord
  /-- The truth value false. -/
  | falseWord
  /-- The null. -/
  | nullWord
  /-- The current time. -/
  | now
  deriving DecidableEq

namespace Token

/-- The name of a token in reports. -/
def name : Token → String
  | create => "Create"
  | drop => "Drop"
  | truncate => "Truncate"
  | insert => "Insert"
  | select => "Select"
  | update => "Update"
  | delete => "Delete"
  | beginTx => "Begin"
  | commit => "Commit"
  | rollback => "Rollback"
  | database => "Database"
  | table => "Table"
  | ifNotExists => "IfNotExists"
  | identifier => "Identifier"
  | columnDef => "ColumnDef"
  | typeName => "TypeName"
  | notNull => "NotNull"
  | primaryKey => "PrimaryKey"
  | unique => "Unique"
  | autoIncrement => "AutoIncrement"
  | defaultValue => "Default"
  | into => "Into"
  | values => "Values"
  | tuple => "Tuple"
  | projection => "Projection"
  | star => "Star"
  | count => "Count"
  | fromTable => "From"
  | whereClause => "Where"
  | assignments => "Set"
  | assign => "Assign"
  | order => "Order"
  | asc => "Asc"
  | desc => "Desc"
  | limit => "Limit"
  | offset => "Offset"
  | allOf => "And"
  | anyOf => "Or"
  | equal => "Equal"
  | notEqual => "NotEqual"
  | less => "Less"
  | lessOrEqual => "LessOrEqual"
  | greater => "Greater"
  | greaterOrEqual => "GreaterOrEqual"
  | like => "Like"
  | inList => "In"
  | isNull => "IsNull"
  | isNotNull => "IsNotNull"
  | number => "Number"
  | stringLit => "String"
  | trueWord => "True"
  | falseWord => "False"
  | nullWord => "Null"
  | now => "Now"

/-- All tokens. -/
def all : List Token :=
  [.create, .drop, .truncate, .insert, .select, .update, .delete, .beginTx, .commit, .rollback,
   .database, .table, .ifNotExists, .identifier, .columnDef, .typeName, .notNull, .primaryKey,
   .unique, .autoIncrement, .defaultValue, .into, .values, .tuple, .projection, .star, .count,
   .fromTable, .whereClause, .assignments, .assign, .order, .asc, .desc, .limit, .offset,
   .allOf, .anyOf, .equal, .notEqual, .less, .lessOrEqual, .greater, .greaterOrEqual, .like,
   .inList, .isNull, .isNotNull, .number, .stringLit, .trueWord, .falseWord, .nullWord, .now]

/-- The token with a given name. -/
def ofName? (name : String) : Option Token :=
  all.find? (·.name == name)

end Token

/-- A node of a statement with all that lies below it. -/
structure Tree where
  /-- What the node is. -/
  token : Token
  /-- The text of the node. -/
  lexeme : String
  /-- The nodes below it, in order. -/
  children : List Tree := []

namespace Tree

mutual

/-- Whether two trees are the same is found out by going through their nodes. -/
def decideEq : (left right : Tree) → Decidable (left = right)
  | ⟨token, lexeme, children⟩, ⟨token', lexeme', children'⟩ =>
    match decEq (token, lexeme) (token', lexeme'), decideAllEq children children' with
    | isTrue same, isTrue below => isTrue (by cases same; cases below; rfl)
    | isFalse other, _ => isFalse fun same => other (by cases same; rfl)
    | _, isFalse other => isFalse fun same => other (by cases same; rfl)

/-- The same for several trees. -/
def decideAllEq : (left right : List Tree) → Decidable (left = right)
  | [], [] => isTrue rfl
  | [], _ :: _ => isFalse (by simp)
  | _ :: _, [] => isFalse (by simp)
  | tree :: trees, tree' :: trees' =>
    match decideEq tree tree', decideAllEq trees trees' with
    | isTrue first, isTrue others => isTrue (by rw [first, others])
    | isFalse first, _ => isFalse fun same => first (List.cons.inj same).1
    | _, isFalse others => isFalse fun same => others (List.cons.inj same).2

end

instance : DecidableEq Tree :=
  decideEq

/-- The first child with a given token. -/
def find? (tree : Tree) (token : Token) : Option Tree :=
  tree.children.find? (·.token == token)

/-- Whether some child has a given token. -/
def has (tree : Tree) (token : Token) : Bool :=
  (tree.find? token).isSome

/-- The child of a node that has just one. -/
def onlyChild? (tree : Tree) : Option Tree :=
  match tree.children with
  | [only] => some only
  | _ => none

end Tree
end SqlEngine
