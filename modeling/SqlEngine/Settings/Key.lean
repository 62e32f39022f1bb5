import SqlEngine.Text.Numeral
import SqlEngine.Text.Scan

/-!
# Keys of settings

A key is known in any case.  It names a setting, or a part of one: a name behind a dot is that of an
entry of a table, and a number in brackets that of an item of a list.  A key of any other form is
the name of a setting by itself.
-/

namespace SqlEngine
namespace Settings

/-- A text in small letters, as far as ASCII goes: no key and no word has other letters. -/
def folded (text : String) : String :=
  String.ofList (text.toList.map Char.toLower)

/-- What a key stands for. -/
inductive Target where
  /-- A setting. -/
  | whole
  /-- An entry of the table that a setting is, or a part of the entry. -/
  | entry
  /-- An item of the list that a setting is, or a part of the item. -/
  | item
  deriving DecidableEq

/-- A key. -/
structure Key where
  /-- The name of the setting. -/
  name : String
  /-- What of the setting the key stands for. -/
  target : Target := .whole
  deriving DecidableEq

namespace Key

/-- A word on the path of a key. -/
def word : Scan String := do
  return String.ofList (← Scan.span1 fun c => c.isAlphanum || c == ' ' || c == '_' || c == '-')

/-- The number of an item, which is within 64 bits. -/
def position : Scan Unit := do
  let blanks := Scan.span fun c => c == ' ' || c == '\t'
  let _ ← blanks
  let minus ← Scan.spanUpTo 1 (· == '-')
  let digits ← Scan.span1 Char.isDigit
  let _ ← blanks
  if (Numeral.integer? (minus ++ digits)).isNone then failure

/-- One step along the path of a key. -/
def step : Scan Target :=
  (Scan.char '.' *> word *> pure .entry)
    <|> (Scan.char '[' *> position *> Scan.char ']' *> pure .item)

/-- A key whose path is well formed; the first step decides on what it stands for. -/
def path : Scan Key := do
  let name ← word
  let steps ← Scan.many step
  return ⟨name, steps.head?.getD .whole⟩

/-- The key of a text. -/
def read (text : String) : Key :=
  let text := folded text
  (Scan.whole path text).getD { name := text }

end Key
end Settings
end SqlEngine
