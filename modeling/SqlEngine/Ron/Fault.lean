import SqlEngine.Text.Place
import SqlEngine.Text.Quoting

/-!
# Faults of RON texts

What can be wrong with a text that is no RON, and how it is reported: with the line and the column up
to which it was read, both counted from one, the column in bytes.  The place of a cursor moves on with
every character that is read, and does not move back with those that are given back to be read again.
-/

namespace SqlEngine

namespace Ron

/-- Whether a character can stand at the front of a name. -/
def startsName (c : Char) : Bool :=
  c.isAlpha || c == '_'

/-- Whether a character can stand in a name. -/
def inName (c : Char) : Bool :=
  c.isAlphanum || c == '_'

/-- Whether a character can stand in a name behind the sign for raw names. -/
def inRawName (c : Char) : Bool :=
  inName c || c == '.' || c == '+' || c == '-'

/-- A name with the sign that texts need in front of it, if they need one. -/
def nameText (name : String) : String :=
  if name.toList.head?.any startsName && name.toList.all inName then name else "r#" ++ name

end Ron

/-- What is wrong with a text that is no RON. -/
inductive Ron.Cause where
  /-- The text ends too early. -/
  | unfinished
  /-- No value starts with the byte that is there, or no comment after a slash. -/
  | unexpected (byte : Nat)
  /-- A list of settings for the reader does not start as one. -/
  | noAttribute
  /-- A list of settings for the reader does not end as one. -/
  | noAttributeEnd
  /-- The reader has no setting of that name. -/
  | noExtension (name : String)
  /-- No comma separates two items. -/
  | noComma
  /-- Something else than a character stands between single quotes. -/
  | noCharacter
  /-- A number has not the form of one. -/
  | noNumber
  /-- An underscore separates digits of a number that is not whole. -/
  | underscore
  /-- No value in brackets follows the word for one that is there. -/
  | noOption
  /-- Something follows the only value in its brackets. -/
  | noOptionEnd
  /-- No colon follows a key. -/
  | noColon
  /-- No string follows the sign of one. -/
  | noString
  /-- A string has no end. -/
  | noStringEnd
  /-- A field has no name. -/
  | noName
  /-- A name has characters that need a sign in front of it. -/
  | noPlainName (name : String)
  /-- What stands behind a backslash has no meaning. -/
  | escape (reason : String)
  /-- A comment has no end. -/
  | unfinishedComment
  /-- Something follows the value. -/
  | trailing
  /-- Values are nested too deeply. -/
  | tooDeep

/-- The wording of what is wrong. -/
def Ron.Cause.message : Ron.Cause → String
  | unfinished => "Unexpected end of RON"
  | unexpected byte => "Unexpected byte " ++ Text.escapedAlone (Char.ofNat byte)
  | noAttribute => "Expected an \x60#![enable(...)]\x60 attribute"
  | noAttributeEnd => "Expected closing \x60)]\x60 after the enable attribute"
  | noExtension name => "No RON extension named \x60" ++ nameText name ++ "\x60"
  | noComma => "Expected comma"
  | noCharacter => "Expected char"
  | noNumber => "Expected float"
  | underscore => "Unexpected underscore in float"
  | noOption => "Expected option"
  | noOptionEnd => "Expected closing \x60)\x60"
  | noColon => "Expected colon"
  | noString => "Expected string"
  | noStringEnd => "Expected end of string"
  | noName => "Expected identifier"
  | noPlainName name =>
    s!"Found invalid std identifier \x60{name}\x60, try the raw identifier \x60r#{name}\x60 instead"
  | escape reason => reason
  | unfinishedComment => "Unclosed block comment"
  | trailing => "Non-whitespace trailing characters"
  | tooDeep =>
    "Exceeded recursion limit, try increasing the limit and using \x60serde_stacker\x60 "
      ++ "to protect against a stack overflow"

/-- How far the reading of a text has come. -/
structure Ron.Cursor where
  /-- What is still to be read. -/
  rest : List Char
  /-- The place for reports. -/
  place : Place := {}

namespace Ron.Cursor

/-- The cursor behind a number of characters. -/
def skip (count : Nat) (cursor : Cursor) : Cursor :=
  ⟨cursor.rest.drop count, (cursor.rest.take count).foldl (Place.behind Char.utf8Size) cursor.place⟩

/-- The cursor behind the next byte, which may be the first one of a longer character. -/
def skipByte (cursor : Cursor) : Cursor :=
  if cursor.rest.head?.any fun c => 1 < c.utf8Size then
    { cursor with place := ⟨cursor.place.line, cursor.place.column + 1⟩ }
  else cursor.skip 1

end Ron.Cursor

/-- A fault of a RON text. -/
structure Ron.Fault where
  /-- What is wrong. -/
  cause : Ron.Cause
  /-- How far the reading had come. -/
  cursor : Ron.Cursor

/-- The report on a fault. -/
def Ron.Fault.report (fault : Fault) : String :=
  let place := fault.cursor.place
  s!"{place.line}:{place.column + 1}: {fault.cause.message}"

end SqlEngine
