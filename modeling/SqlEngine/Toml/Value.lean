import SqlEngine.Datum
import SqlEngine.Toml.Fault

/-!
# TOML values

A TOML document is a table of entries.  Tables remember how they came about, since that decides
whether a document may come back to them: a table that was only passed through can still get a header
of its own, and one that was built by dotted keys can grow by further dotted keys.
-/

namespace SqlEngine

/-- How a table came about. -/
inductive Toml.Origin where
  /-- By a header of its own. -/
  | header
  /-- On the way to another table. -/
  | passed
  /-- By dotted keys. -/
  | dotted
  deriving DecidableEq

/-- A TOML value. -/
inductive Toml where
  /-- A string. -/
  | string (text : String)
  /-- A whole number. -/
  | integer (number : Int64)
  /-- A floating-point number. -/
  | float (number : Binary64)
  /-- A truth value. -/
  | boolean (truth : Bool)
  /-- A date, a time or both, in normal form. -/
  | moment (text : String)
  /-- A list of values. -/
  | array (items : List Toml)
  /-- A table written as a value. -/
  | inline (entries : List (String × Toml))
  /-- A table. -/
  | table (origin : Toml.Origin) (entries : List (String × Toml))
  /-- A list of tables, which is not empty: those before the last, and the last. -/
  | tables (earlier : List (List (String × Toml))) (last : List (String × Toml))

namespace Toml

/-- What values of its kind are called. -/
def kind : Toml → String
  | string _ => "string"
  | integer _ => "integer"
  | float _ => "float"
  | boolean _ => "boolean"
  | moment _ => "datetime"
  | array _ => "array"
  | inline _ => "inline table"
  | table .. => "table"
  | tables .. => "array of tables"

/-- A key with dots between its parts. -/
structure Key where
  /-- The parts in front of the last. -/
  path : List String
  /-- The last part. -/
  last : String

/-- The key of parts. -/
def Key.ofParts (first : String) : List String → Key
  | [] => ⟨[], first⟩
  | second :: parts =>
    let key := ofParts second parts
    ⟨first :: key.path, key.last⟩

/-- The parts of a key. -/
def Key.parts (key : Key) : List String :=
  key.path ++ [key.last]

/-- Whether a character can stand in a key without quotes. -/
def isBare (c : Char) : Bool :=
  c.isAlphanum || c == '_' || c == '-'

/-- Whether a character is one of control. -/
def isControl (c : Char) : Bool :=
  c < ' ' || c == '\x7f'

/-- A character as it is written between quotes that allow escapes. -/
def escapedChar (c : Char) : List Char :=
  match c with
  | '\x08' => ['\\', 'b']
  | '\t' => ['\\', 't']
  | '\n' => ['\\', 'n']
  | '\x0c' => ['\\', 'f']
  | '\r' => ['\\', 'r']
  | '\x22' => ['\\', c]
  | '\\' => ['\\', c]
  | _ =>
    let digits := (Nat.toDigits 16 c.toNat).map Char.toUpper
    if isControl c then '\\' :: 'u' :: List.replicate (4 - digits.length) '0' ++ digits else [c]

/-- A part of a key as documents write it: bare if it can be, else between quotes, which are single
ones if that saves escapes. -/
def keyText (part : String) : String :=
  let chars := part.toList
  let literal := chars.any (fun c => c == '\\' || c == '\x22')
    && !chars.any fun c => c == '\x27' || isControl c && c != '\t'
  if !chars.isEmpty && chars.all isBare then part
  else if literal then String.ofList ('\x27' :: chars ++ ['\x27'])
  else String.ofList ('\x22' :: chars.flatMap escapedChar ++ ['\x22'])

/-- The entries of a table, in the order in which they came. -/
abbrev Entries := List (String × Toml)

namespace Entries

/-- The entries with another value under a key that they have. -/
def replace (entries : Entries) (key : String) (value : Toml) : Entries :=
  entries.map fun entry => if entry.1 == key then (key, value) else entry

/-- A change to the table at the end of a path of headers, `passed` being the way so far.  Tables that
are missing are made on the way, and of a list of tables the last one counts. -/
def along (change : Entries → Except Breach Entries) (passed : List String) :
    List String → Entries → Except Breach Entries
  | [], entries => change entries
  | key :: path, entries =>
    let passed := passed ++ [key]
    match entries.lookup key with
    | none => do return entries ++ [(key, .table .passed (← along change passed path []))]
    | some (.table origin inner) => do
      return entries.replace key (.table origin (← along change passed path inner))
    | some (.tables earlier last) => do
      return entries.replace key (.tables earlier (← along change passed path last))
    | some value => throw (.extended passed value.kind)

/-- The header of a table, which must not have one already. -/
def openTable (header : Key) : Entries → Except Breach Entries :=
  along (fun entries =>
    match entries.lookup header.last with
    | none => return entries ++ [(header.last, .table .header [])]
    | some (.table .passed inner) => return entries.replace header.last (.table .header inner)
    | some _ => throw (.duplicate (keyText header.last) (some header.path))) [] header.path

/-- The header of one more table of a list. -/
def openNext (header : Key) : Entries → Except Breach Entries :=
  along (fun entries =>
    match entries.lookup header.last with
    | none => return entries ++ [(header.last, .tables [] [])]
    | some (.tables earlier last) =>
      return entries.replace header.last (.tables (earlier ++ [last]) [])
    | some _ => throw (.duplicate (keyText header.last) (some header.path))) [] header.path

/-- An entry at the end of a path of dotted keys, `passed` being the way so far.  Tables that are
missing are made on the way; those with a header are closed, and the one at the end must be open for
entries of its own.  The table in which the path starts has a path itself, unless it is written as
a value. -/
def enter (table : Option (List String)) (name : String) (value : Toml) (isOpen : Bool)
    (passed : List String) : List String → Entries → Except Breach Entries
  | [], entries =>
    if !isOpen then throw (.duplicate name none)
    else if (entries.lookup name).isSome then throw (.duplicate name table)
    else return entries ++ [(name, value)]
  | key :: path, entries =>
    let passed := passed ++ [key]
    match entries.lookup key with
    | none => do
      return entries ++ [(key, .table .dotted (← enter table name value true passed path []))]
    | some (.table .header _) => throw (.duplicate key none)
    | some (.table origin inner) => do
      let inner ← enter table name value (origin == .dotted) passed path inner
      return entries.replace key (.table origin inner)
    | some (.tables earlier last) => do
      let last ← enter table name value false passed path last
      return entries.replace key (.tables earlier last)
    | some old =>
      if table.isNone && old.kind == (inline []).kind then throw (.duplicate key none)
      else throw (.extended passed old.kind)

/-- An entry of a document, in the table of the header with a given path. -/
def define (table : List String) (key : Key) (value : Toml) : Entries → Except Breach Entries :=
  along (enter (some table) key.last value true [] key.path) [] table

/-- An entry of a table that is written as a value. -/
def defineInline (key : Key) (value : Toml) : Entries → Except Breach Entries :=
  enter none key.last value true [] key.path

end Entries
end Toml
end SqlEngine
