import SqlEngine.Duration
import SqlEngine.Statement.Tree
import SqlEngine.Text.Quoting

/-!
# Errors

Everything that can go wrong, by cause, and the wording of each.  An error that comes back from
another engine as text is recognised again where a caller may want to act on it: a table that is
missing or there already, and an engine that has stopped.
-/

namespace SqlEngine

/-- What is wrong with the text of a statement. -/
inductive ParseFault where
  /-- The text has the form of no statement. -/
  | unreadable (text : String)
  /-- Something follows a complete statement. -/
  | leftover (text : String)
  /-- There is no statement at all. -/
  | noStatement
  /-- A number cannot be held. -/
  | number (lexeme : String)
  /-- The length of a type cannot be held. -/
  | typeLength (lexeme : String)
  /-- A number of rows cannot be held. -/
  | rowCount (lexeme : String)
  /-- Something else, in words. -/
  | other (text : String)
  deriving DecidableEq

/-- The wording of a fault of a text. -/
def ParseFault.message : ParseFault → String
  | unreadable text => s!"cannot parse '{text}'"
  | leftover text => s!"unexpected input '{text}'"
  | noStatement => "empty statement"
  | number lexeme => s!"invalid number '{lexeme}'"
  | typeLength lexeme => s!"invalid type length '{lexeme}'"
  | rowCount lexeme => s!"invalid count '{lexeme}'"
  | other text => text

/-- What is wrong with the form of a statement tree.  Trees read from text have none of these. -/
inductive TreeFault where
  /-- The children of a statement or clause are not the ones it takes. -/
  | arguments (of : String)
  /-- A clause of a statement is missing. -/
  | missing (owner clause : String)
  /-- A name is missing. -/
  | noName (of : String)
  /-- A table has no column. -/
  | noColumns (table : String)
  /-- A column of a new table is something else. -/
  | notColumn
  /-- A column has no type. -/
  | noType (column : String)
  /-- A default has no value. -/
  | noDefaultValue
  /-- A constraint of a column is something else. -/
  | constraint (found : Token)
  /-- A change to a row is something else. -/
  | assignment
  /-- The columns of a query are something else. -/
  | projection
  /-- A clause has no number of rows. -/
  | noRowCount (clause : String)
  /-- A condition is something else. -/
  | predicate (found : Token)
  /-- A condition has no column. -/
  | noColumn (condition : String)
  /-- A comparison has no second operand. -/
  | noOperand (comparison : String)
  /-- A literal is something else. -/
  | literal (found : Token)
  /-- A statement is something else. -/
  | statement (found : Token)
  deriving DecidableEq

/-- The wording of a fault of a tree. -/
def TreeFault.message : TreeFault → String
  | arguments of => s!"unexpected {of} arguments"
  | missing owner clause => s!"{owner} needs {clause}"
  | noName of => s!"expected {of} name"
  | noColumns table => s!"table '{table}' needs at least one column"
  | notColumn => "expected column definition"
  | noType column => s!"column '{column}' has no type"
  | noDefaultValue => "DEFAULT needs a value"
  | constraint found => "unexpected column constraint " ++ found.name
  | assignment => "unexpected assignment"
  | projection => "unexpected projection"
  | noRowCount clause => s!"{clause} needs a count"
  | predicate found => "unexpected predicate " ++ found.name
  | noColumn condition => s!"expected column in '{condition}'"
  | noOperand comparison => s!"missing operand for '{comparison}'"
  | literal found => "expected a literal, found " ++ found.name
  | statement found => "unexpected leading instruction " ++ found.name

/-- What does not fit together in a statement. -/
inductive ShapeFault where
  /-- A table has no column of that name. -/
  | unknownColumn (column table : String)
  /-- A new table has two columns of that name. -/
  | duplicateColumn (column : String)
  /-- A list names a column twice. -/
  | listedTwice (column : String)
  /-- A column that numbers its rows is not an integer. -/
  | notInteger (column : String)
  /-- A prepared statement got another number of arguments than it has placeholders. -/
  | argumentCount (expected given : Nat)
  /-- The form of the tree is wrong. -/
  | tree (fault : TreeFault)
  /-- Something else, in words. -/
  | other (text : String)
  deriving DecidableEq

/-- The wording of a fault of form. -/
def ShapeFault.message : ShapeFault → String
  | unknownColumn column table => s!"unknown column '{column}' in relation '{table}'"
  | duplicateColumn column => s!"duplicate column '{column}'"
  | listedTwice column => s!"column '{column}' listed twice"
  | notInteger column => s!"AUTOINCREMENT column '{column}' must be an integer"
  | argumentCount expected given => s!"statement expects {expected} arguments, got {given}"
  | tree fault => fault.message
  | other text => text

/-- Which rule on the data would be broken. -/
inductive ConstraintFault where
  /-- A text is longer than its column allows. -/
  | tooLong (limit : Nat)
  /-- There is no number after the highest one. -/
  | exhausted
  /-- A column that has no value twice would get one twice. -/
  | duplicate (value column : String)
  /-- A column that has no null would get one. -/
  | nullCell (column : String)
  /-- Something else, in words. -/
  | other (text : String)
  deriving DecidableEq

/-- The wording of a broken rule. -/
def ConstraintFault.message : ConstraintFault → String
  | tooLong limit => s!"value too long for VARCHAR({limit})"
  | exhausted => "autoincrement sequence exhausted"
  | duplicate value column => s!"duplicate value {value} for unique column '{column}'"
  | nullCell column => s!"column '{column}' cannot be NULL"
  | other text => text

/-- What the engine does not offer. -/
inductive Feature where
  /-- A type of columns. -/
  | columnType (name : String)
  /-- An option of a connection string. -/
  | connectionOption (key : String)
  /-- A level of isolation. -/
  | isolation (level : String)
  /-- A transaction that only reads. -/
  | readOnly
  /-- A query among the statements of a transaction. -/
  | queuedQuery
  /-- A transaction inside a transaction. -/
  | nested
  /-- Something else, in words. -/
  | other (text : String)
  deriving DecidableEq

/-- The wording of a missing feature. -/
def Feature.message : Feature → String
  | columnType name => s!"column type '{name}'"
  | connectionOption key => s!"connection option '{key}'"
  | isolation level => s!"isolation level {level}"
  | readOnly => "read-only transaction"
  | queuedQuery => "SELECT in a transaction buffer, use query"
  | nested => "nested transaction control"
  | other text => text

/-- What is wrong with the settings or a connection string. -/
inductive ConfigFault where
  /-- A text is no duration. -/
  | duration (fault : Duration.Fault) (text : String)
  /-- A setting has not the type that its key needs, and stands in a known place or is put together. -/
  | setting (found expected key : String) (origin : Option String)
  /-- A file has not the form that its name promises, or is no table. -/
  | document (report origin : String)
  /-- There is something of that name, but no file. -/
  | noFile (name : String)
  /-- A file has a name that says nothing of its form. -/
  | fileForm (name : String)
  /-- Something else, in words. -/
  | other (text : String)
  deriving DecidableEq

/-- The wording of a fault of the settings. -/
def ConfigFault.message : ConfigFault → String
  | duration .invalid text => s!"invalid duration '{text}'"
  | duration .negative text => s!"negative duration '{text}'"
  | setting found expected key origin =>
    s!"invalid type: {found}, expected {expected} for key \x60{key}\x60"
      ++ origin.elim "" (" in " ++ ·)
  | document report origin => s!"{report} in {origin}"
  | noFile name => s!"configuration file \x22{name}\x22 not found"
  | fileForm name =>
    s!"configuration file \x22{name}\x22 is not of a registered file format"
  | other text => text

/-- An error. -/
inductive Error where
  /-- A text is not read. -/
  | parse (fault : ParseFault)
  /-- A statement does not fit together. -/
  | shape (fault : ShapeFault)
  /-- There is no table of that name. -/
  | notFound (table : String)
  /-- There is a table of that name already. -/
  | alreadyExists (table : String)
  /-- A row has too few or too many values. -/
  | columnCountMismatch
  /-- A value has not the type that is needed. -/
  | typeMismatch
  /-- A rule on the data would be broken. -/
  | constraint (fault : ConstraintFault)
  /-- Something is not offered. -/
  | unsupported (feature : Feature)
  /-- Something is not there yet. -/
  | unimplemented (feature : String)
  /-- The settings are wrong. -/
  | config (fault : ConfigFault)
  /-- The engine does not run any more. -/
  | engineStopped
  /-- A statement took too long. -/
  | timeout (limit : Duration)
  /-- The outside world failed. -/
  | outside (text : String)
  /-- An error that was sent as text. -/
  | remote (text : String)
  /-- A row has no cell at a place where its table has a column.  Tables that are changed by
  statements alone have no such row. -/
  | noCell (place : Nat)
  /-- The reading of a text breaks, as a word would have to end inside a character.  What reads the text
  is cut short without a word. -/
  | broken
  deriving DecidableEq

namespace Error

/-- The wording of an error. -/
def message : Error → String
  | parse fault => "parse error: " ++ fault.message
  | shape fault => fault.message
  | notFound table => s!"relation '{table}' not found"
  | alreadyExists table => s!"relation '{table}' already exists"
  | columnCountMismatch => "column count mismatch"
  | typeMismatch => "type mismatch"
  | constraint fault => "constraint violation: " ++ fault.message
  | unsupported feature => feature.message ++ " is not supported"
  | unimplemented feature => feature ++ " is not implemented"
  | config fault => "configuration error: " ++ fault.message
  | engineStopped => "engine stopped"
  | timeout limit => "statement timed out after " ++ limit.report
  | outside text => "IO error: " ++ text
  | remote text => text
  | noCell place => s!"row without a cell {place}"
  | broken => "word that ends inside a character"

/-- Whether an error cuts short what is running, so that no message tells of it. -/
def isCrash : Error → Bool
  | broken => true
  | _ => false

/-- The name of the kind of an error. -/
def kind : Error → String
  | parse _ => "Parse"
  | shape _ => "Shape"
  | notFound _ => "NotFound"
  | alreadyExists _ => "AlreadyExists"
  | columnCountMismatch => "ColumnCountMismatch"
  | typeMismatch => "TypeMismatch"
  | constraint _ => "Constraint"
  | unsupported _ => "Unsupported"
  | unimplemented _ => "Unimplemented"
  | config _ => "Config"
  | engineStopped => "EngineStopped"
  | timeout _ => "Timeout"
  | outside _ => "Io"
  | remote _ => "Remote"
  | noCell _ => "NoCell"
  | broken => "Broken"

/-- What an error says beside its kind, as reports show it. -/
def detail? : Error → Option String
  | parse fault => Text.escaped fault.message
  | shape fault => Text.escaped fault.message
  | notFound table => Text.escaped table
  | alreadyExists table => Text.escaped table
  | columnCountMismatch => none
  | typeMismatch => none
  | constraint fault => Text.escaped fault.message
  | unsupported feature => Text.escaped feature.message
  | unimplemented feature => Text.escaped feature
  | config fault => Text.escaped fault.message
  | engineStopped => none
  | timeout limit => limit.report
  | outside text => Text.escaped text
  | remote text => Text.escaped text
  | noCell place => toString place
  | broken => none

/-- The kind of an error with its detail in brackets. -/
def report (error : Error) : String :=
  match error.detail? with
  | none => error.kind
  | some detail => error.kind ++ "(" ++ detail ++ ")"

/-- What stands between a beginning and an end of a text that do not overlap. -/
def between? (beginning ending text : String) : Option String := do
  let rest ← Scan.strip? (· == ·) beginning.toList text.toList
  let reversed ← Scan.strip? (· == ·) ending.toList.reverse rest.reverse
  return String.ofList reversed.reverse

/-- The error that a text sent by an engine stands for. -/
def ofRemote (text : String) : Error :=
  match between? "relation '" "' not found" text with
  | some table => notFound table
  | none =>
    match between? "relation '" "' already exists" text with
    | some table => alreadyExists table
    | none => if text = "engine stopped" then engineStopped else remote text

end Error
end SqlEngine
