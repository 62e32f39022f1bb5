import SqlEngine.Text.Place
import SqlEngine.Text.Reader

/-!
# Faults of JSON texts

What can be wrong with a text that is no JSON, and how it is reported: with the line, counted from one,
and the number of bytes of that line up to the place where the fault shows.
-/

namespace SqlEngine

/-- What is wrong with a text that is no JSON. -/
inductive Json.Cause where
  /-- The text ends in front of a value or in it. -/
  | unfinishedValue
  /-- The text ends in a list. -/
  | unfinishedList
  /-- The text ends in an object. -/
  | unfinishedObject
  /-- The text ends in a string. -/
  | unfinishedString
  /-- No value starts with the character that is there. -/
  | noValue
  /-- A word is none of those that are values. -/
  | noWord
  /-- Something else than a comma or the end follows an element of a list. -/
  | noListEnd
  /-- Something else than a comma or the end follows an entry of an object. -/
  | noObjectEnd
  /-- Something else than a colon follows a key. -/
  | noColon
  /-- A key is not a string. -/
  | noKey
  /-- Nothing follows the last comma of a list or an object. -/
  | trailingComma
  /-- Something follows the value. -/
  | trailingCharacters
  /-- A number has not the form of one. -/
  | malformedNumber
  /-- A number is too far from zero. -/
  | outOfRange
  /-- A backslash has no meaning in front of what follows it. -/
  | malformedEscape
  /-- A control character stands in a string. -/
  | controlCharacter
  /-- Half of a surrogate pair stands alone. -/
  | loneSurrogate
  /-- The second half of a surrogate pair is missing. -/
  | unfinishedPair
  /-- Values are nested too deeply. -/
  | tooDeep

/-- The wording of what is wrong. -/
def Json.Cause.message : Json.Cause → String
  | unfinishedValue => "EOF while parsing a value"
  | unfinishedList => "EOF while parsing a list"
  | unfinishedObject => "EOF while parsing an object"
  | unfinishedString => "EOF while parsing a string"
  | noValue => "expected value"
  | noWord => "expected ident"
  | noListEnd => "expected `,` or `]`"
  | noObjectEnd => "expected `,` or `\x7d`"
  | noColon => "expected `:`"
  | noKey => "key must be a string"
  | trailingComma => "trailing comma"
  | trailingCharacters => "trailing characters"
  | malformedNumber => "invalid number"
  | outOfRange => "number out of range"
  | malformedEscape => "invalid escape"
  | controlCharacter => "control character (\\u0000-\\u001F) found while parsing a string"
  | loneSurrogate => "lone leading surrogate in hex escape"
  | unfinishedPair => "unexpected end of hex escape"
  | tooDeep => "recursion limit exceeded"

/-- A fault of a JSON text. -/
structure Json.Fault where
  /-- What is wrong. -/
  cause : Json.Cause
  /-- How many bytes behind the place where the reading stopped the fault shows. -/
  ahead : Nat := 0

/-- The report on a fault of a text, of which `rest` was not read. -/
def Json.Fault.report (fault : Json.Fault) (text : String) (rest : List Char) : String :=
  let place := (Place.before Char.utf8Size text.toList rest).advance Char.utf8Size fault.ahead rest
  s!"{fault.cause.message} at line {place.line} column {place.column}"

/-- A reader of a part of a JSON text. -/
abbrev Json.Source (α : Type) := Reader Json.Fault α

namespace Json.Source

/-- Fails at the end of what was read. -/
def failHere {α : Type} (cause : Cause) : Source α :=
  Reader.fail { cause }

/-- Fails at the next byte, or at the end of the text. -/
def failNext {α : Type} (cause : Cause) : Source α :=
  Reader.fail { cause, ahead := 1 }

end Json.Source
end SqlEngine
