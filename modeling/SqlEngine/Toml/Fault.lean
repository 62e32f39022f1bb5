import SqlEngine.Text.Place
import SqlEngine.Text.Quoting

/-!
# Faults of TOML texts

A text that is no TOML document either breaks off where something else had to stand, or is well
formed and breaks a rule.  The report on it shows the line with a mark under the character where the
reading stopped.
-/

namespace SqlEngine

/-- A rule that a TOML text breaks. -/
inductive Toml.Breach where
  /-- A number lies outside the range that its place allows. -/
  | outOfRange
  /-- Values or keys have too many levels. -/
  | tooDeep
  /-- A whole number is above all of 64 bits. -/
  | tooLarge
  /-- A whole number is below all of 64 bits. -/
  | tooSmall
  /-- A key is there already, in a table given by its path, if the table is known. -/
  | duplicate (key : String) (table : Option (List String))
  /-- The path of a key leads through a value that is no table. -/
  | extended (path : List String) (kind : String)

/-- The wording of a broken rule. -/
def Toml.Breach.message : Toml.Breach → String
  | outOfRange => "value is out of range"
  | tooDeep => "recursion limit exceeded"
  | tooLarge => "number too large to fit in target type"
  | tooSmall => "number too small to fit in target type"
  | duplicate key none => s!"duplicate key \x60{key}\x60"
  | duplicate key (some []) => s!"duplicate key \x60{key}\x60 in document root"
  | duplicate key (some path) =>
    "duplicate key \x60" ++ key ++ "\x60 in table \x60" ++ ".".intercalate path ++ "\x60"
  | extended path kind =>
    "dotted key \x60" ++ ".".intercalate path ++ "\x60 attempted to extend non-table type ("
      ++ kind ++ ")"

/-- What is wrong with a text that is no TOML document. -/
structure Toml.Fault where
  /-- The innermost construct that was begun. -/
  construct : Option String := none
  /-- What could have stood there. -/
  expected : List String := []
  /-- The rule that is broken. -/
  breach : Option Toml.Breach := none
  /-- Whether it is of no use to read the text in another way. -/
  isFinal : Bool := false

namespace Toml.Fault

/-- The wording of a fault, which is empty if nothing is known but its place. -/
def message (fault : Fault) : String :=
  let construct := fault.construct.map ("invalid " ++ ·)
  let expected := if fault.expected.isEmpty then none
    else some ("expected " ++ ", ".intercalate fault.expected)
  "\n".intercalate ([construct, expected, fault.breach.map (·.message)].filterMap id)

/-- The place of a fault.  Columns count characters, but bytes in front of a character beyond ASCII. -/
def place (chars rest : List Char) : Place :=
  match rest with
  | c :: _ => Place.before (if c.toNat < 128 then fun _ => 1 else Char.utf8Size) chars rest
  | [] =>
    let place := Place.atEnd (fun _ => 1) chars.dropLast
    ⟨place.line, place.column + 1⟩

/-- The report on a fault of a text, of which `rest` was not read. -/
def report (fault : Fault) (text : String) (rest : List Char) : String :=
  let place := place text.toList rest
  let number := toString place.line
  let line := ((text.splitOn "\n")[place.line - 1]?).getD ""
  let margin := String.ofList (List.replicate (number.length + 1) ' ') ++ "|"
  let width := (rest.head?.elim 0 Char.utf8Size).min (line.utf8ByteSize - place.column)
  let mark := List.replicate (place.column + 1) ' ' ++ List.replicate (max width 1) '^'
  "\n".intercalate
    [s!"TOML parse error at line {number}, column {place.column + 1}", margin,
      number ++ " | " ++ line, margin ++ String.ofList mark, fault.message, ""]

end Toml.Fault
end SqlEngine
