import SqlEngine.Statement.Tree
import SqlEngine.Text.Alphanumeric
import SqlEngine.Text.Scan
import SqlEngine.Text.UpperCase

/-!
# Words, names and signs

The words of the language stand in any case and end where no further letter, digit or underscore
follows.  A name is a word that is not reserved, or any text between quotes or back quotes.  Blanks
may stand around all of these.
-/

namespace SqlEngine
namespace Grammar

/-- The characters between the parts of a statement. -/
def isSpace (c : Char) : Bool :=
  c == ' ' || c == '\t' || c == '\r' || c == '\n'

/-- An item with spaces around it. -/
def spaced {α : Type} (item : Scan α) : Scan α := do
  let _ ← Scan.span isSpace
  let value ← item
  let _ ← Scan.span isSpace
  return value

/-- The characters of a name behind its first. -/
def isNameChar (c : Char) : Bool :=
  Text.isAlphanumeric c || c == '_'

/-- The small letter of a character, as far as it can be one of the letters that words are made of:
outside ASCII only the KELVIN SIGN has such a small letter. -/
def small (c : Char) : Char :=
  if c = '\u212a' then 'k' else c.toLower

/-- Whether characters are given letters in any case, as far as there are both. -/
def agrees (expected chars : List Char) : Bool :=
  (expected.zip chars).all fun (letter, c) => small letter == small c

/-- Letters in any case, as they are written.  They are compared one by one, but what agrees is cut
off by the number of their bytes.  A KELVIN SIGN takes three bytes where the letter K takes one, so
that the cut can come to lie inside it, which breaks the reading. -/
def letters (expected : String) : Scan String := fun chars =>
  if agrees expected.toList chars then do
    let (lexeme, rest) ← Scan.bytes expected.utf8ByteSize chars
    return (String.ofList lexeme, rest)
  else .miss

/-- A word of the language, as it is written. -/
def word (expected : String) : Scan String :=
  spaced do
    let lexeme ← letters expected
    Scan.notNext isNameChar
    return lexeme

/-- A node for a word of the language. -/
def wordNode (token : Token) (expected : String) : Scan Tree := do
  return { token, lexeme := ← word expected }

/-- A sign. -/
def sign (expected : Char) : Scan Unit :=
  spaced (Scan.char expected)

/-- The words that cannot be names. -/
def reserved : List String :=
  ["SELECT", "FROM", "WHERE", "AND", "OR", "NOT", "NULL", "IS", "IN", "LIKE", "ORDER", "BY",
   "LIMIT", "OFFSET", "SET", "VALUES", "IF", "EXISTS", "ASC", "DESC", "TRUE", "FALSE", "PRIMARY",
   "UNIQUE", "DEFAULT", "AUTOINCREMENT", "AUTO_INCREMENT"]

/-- A name without quotes. -/
def bareName : Scan String := do
  let first ← Scan.satisfy fun c => c.isAlpha || c == '_'
  let others ← Scan.span isNameChar
  let name := String.ofList (first :: others)
  if reserved.contains (Text.upperCase name) then failure
  return name

/-- A name between two quotes, of which it contains none. -/
def nameWithin (quote : Char) : Scan String := do
  Scan.char quote
  let name ← Scan.span (· != quote)
  Scan.char quote
  return String.ofList name

/-- A name. -/
def name : Scan String :=
  spaced (nameWithin '\x22' <|> nameWithin '\x60' <|> bareName)

/-- A node for a name. -/
def nameNode : Scan Tree := do
  return { token := .identifier, lexeme := ← name }

/-- Items with commas between them. -/
def listed {α : Type} (item : Scan α) : Scan (List α) :=
  Scan.sepBy1 (sign ',') item

/-- An item between brackets. -/
def bracketed {α : Type} (item : Scan α) : Scan α := do
  sign '('
  let value ← item
  sign ')'
  return value

end Grammar
end SqlEngine
