import SqlEngine.Text.Reader
import SqlEngine.Text.Scan
import SqlEngine.Toml.Fault

/-!
# Readers of TOML

The parts of which the readers of TOML are made.  A choice takes the first reading that does not
fail, unless a fault is final; else the fault of the last reading counts, and with it the place where
that reading stopped.
-/

namespace SqlEngine

/-- A reader of a part of a TOML text. -/
abbrev Toml.Source (α : Type) := Reader Toml.Fault α

namespace Toml.Source

/-- Fails where the reading stands. -/
def fail {α : Type} : Source α :=
  Reader.fail {}

/-- One character that passes a test; any other stays where it is. -/
def satisfy (test : Char → Bool) : Source Char := fun chars =>
  match chars with
  | c :: rest => if test c then .ok (c, rest) else .error ⟨{}, chars⟩
  | [] => .error ⟨{}, chars⟩

/-- One given character. -/
def char (expected : Char) : Source Unit := do
  let _ ← satisfy (· == expected)

/-- A fixed text, of which nothing is read if it does not stand there. -/
def exactly (text : String) : Source Unit := fun chars =>
  match Scan.strip? (· == ·) text.toList chars with
  | some rest => .ok ((), rest)
  | none => .error ⟨{}, chars⟩

/-- The longest front of characters that pass a test, which must not be empty. -/
def span1 (test : Char → Bool) : Source (List Char) := do
  let first ← satisfy test
  return first :: (← Reader.span test)

/-- The end of the text. -/
def atEnd : Source Unit := fun chars =>
  if chars.isEmpty then .ok ((), chars) else .error ⟨{}, chars⟩

/-- A value, if there is one. -/
def possibly {α : Type} (item : Source α) : Source (Option α) := fun chars =>
  match item chars with
  | .ok (value, rest) => .ok (some value, rest)
  | .error failure => if failure.fault.isFinal then .error failure else .ok (none, chars)

/-- The first of two readings, or the second if the first fails. -/
def either {α : Type} (first second : Source α) : Source α := fun chars =>
  match first chars with
  | .ok result => .ok result
  | .error failure => if failure.fault.isFinal then .error failure else second chars

/-- A reading whose faults are final. -/
def final {α : Type} (item : Source α) : Source α :=
  item.mapFault fun fault => { fault with isFinal := true }

/-- A reading of a construct. -/
def within {α : Type} (construct : String) (item : Source α) : Source α :=
  item.mapFault fun fault => { fault with construct := fault.construct <|> some construct }

/-- A reading of what could be described by given words. -/
def expecting {α : Type} (expected : List String) (item : Source α) : Source α :=
  item.mapFault fun fault => { fault with expected := fault.expected ++ expected }

/-- Characters as descriptions of what could stand in a place. -/
def marks (chars : List Char) : List String :=
  chars.map fun c => String.ofList ['\x60', c, '\x60']

/-- A value that a rule changes; where it is broken, all of the value is left unread. -/
def checked {α β : Type} (rule : α → Except Breach β) (item : Source α) : Source β := fun chars =>
  match item chars with
  | .error failure => .error failure
  | .ok (value, rest) =>
    match rule value with
    | .ok value => .ok (value, rest)
    | .error breach => .error ⟨{ breach := some breach }, chars⟩

/-- A value that a rule changes, whose breach is final. -/
def settled {α β : Type} (rule : α → Except Fault β) (item : Source α) : Source β := fun chars =>
  match item chars with
  | .error failure => .error failure
  | .ok (value, rest) =>
    match rule value with
    | .ok value => .ok (value, rest)
    | .error fault => .error ⟨{ fault with isFinal := true }, chars⟩

/-- As many items as there are, perhaps none. -/
def many {α : Type} (item : Source α) : Source (List α) :=
  Reader.collect (possibly item)

/-- At least one item. -/
def many1 {α : Type} (item : Source α) : Source (List α) := do
  let first ← item
  return first :: (← many item)

/-- At least one item, with separators between them; a separator that no item follows is left. -/
def separated1 {α : Type} (separator : Source Unit) (item : Source α) : Source (α × List α) := do
  let first ← item
  return (first, ← many (separator *> item))

/-- Items with separators between them, perhaps none. -/
def separated {α : Type} (separator : Source Unit) (item : Source α) : Source (List α) := do
  match ← possibly (separated1 separator item) with
  | some (first, others) => return first :: others
  | none => return []

end Toml.Source
end SqlEngine
