import SqlEngine.Text.Numeral
import SqlEngine.Toml.Source
import SqlEngine.Toml.Value

/-!
# TOML strings, keys and gaps

Strings on one line and on several, with escapes or without; keys with dots between their parts; and
the blanks, line ends and comments between the parts of a document.
-/

namespace SqlEngine
namespace Toml.Source

/-- Whether a character is a blank. -/
def isBlank (c : Char) : Bool :=
  c == ' ' || c == '\t'

/-- Blanks. -/
def blanks : Source Unit := do
  let _ ← Reader.span isBlank

/-- The end of a line. -/
def lineEnd : Source Unit :=
  either (char '\n') (char '\r' *> char '\n')

/-- The end of a line or of the text. -/
def endOfLine : Source Unit :=
  either lineEnd atEnd

/-- Whether a character may stand in a comment or a string: no control character but the tab. -/
def isPrinted (c : Char) : Bool :=
  c == '\t' || !isControl c

/-- A comment. -/
def comment : Source Unit := do
  char '#'
  let _ ← Reader.span isPrinted

/-- What stands behind the content of a line. -/
def lineRest : Source Unit := do
  blanks
  let _ ← possibly comment
  endOfLine

/-- The end of a line, in place of which any other character is read too. -/
def gapEnd : Source Unit := do
  match ← Reader.next with
  | some '\n' => return
  | some '\r' => char '\n'
  | _ => fail

/-- Blanks, and a line end or a comment with one, if there is one. -/
def gapPart : Source (Option Unit) := do
  blanks
  match ← Reader.peek with
  | some '#' => return some (← comment *> gapEnd)
  | some '\n' => return some (← gapEnd)
  | some '\r' => return some (← gapEnd)
  | _ => return none

/-- Blanks, line ends and comments. -/
def gap : Source Unit := do
  let _ ← Reader.collect gapPart

/-- Exactly `count` characters that pass a test. -/
def exactlyMany (count : Nat) (test : Char → Bool) : Source (List Char) := fun chars =>
  let front := (chars.take count).takeWhile test
  if front.length = count then .ok (front, chars.drop count) else .error ⟨{}, chars⟩

/-- The character with a number in hexadecimal of a given length. -/
def numberedChar (length : Nat) : Source Char :=
  checked
    (fun digits =>
      let number := Numeral.valueIn 16 digits
      if number.isValidChar then .ok (Char.ofNat number) else .error .outOfRange)
    (exactlyMany length Numeral.isHexDigit)

/-- A character behind a backslash that has no meaning there; one beyond ASCII is left unread. -/
def noEscape (c : Char) : Source Char := do
  if c.toNat < 128 then Reader.skip 1
  expecting (marks ['b', 'f', 'n', 'r', 't', 'u', 'U', '\\', '\x22'])
    (within "escape sequence" (final fail))

/-- A character behind a backslash. -/
def escape : Source Char := do
  char '\\'
  match ← Reader.peek with
  | none => fail
  | some 'b' => Reader.skip 1 *> pure '\x08'
  | some 't' => Reader.skip 1 *> pure '\t'
  | some 'n' => Reader.skip 1 *> pure '\n'
  | some 'f' => Reader.skip 1 *> pure '\x0c'
  | some 'r' => Reader.skip 1 *> pure '\r'
  | some '\x22' => Reader.skip 1 *> pure '\x22'
  | some '\\' => Reader.skip 1 *> pure '\\'
  | some 'u' => Reader.skip 1 *> within "unicode 4-digit hex code" (final (numberedChar 4))
  | some 'U' => Reader.skip 1 *> within "unicode 8-digit hex code" (final (numberedChar 8))
  | some c => noEscape c

/-- The quote of strings with escapes. -/
def basicQuote : Char :=
  '\x22'

/-- The quote of strings without escapes. -/
def literalQuote : Char :=
  '\x27'

/-- Characters of a string with escapes that stand for themselves. -/
def basicRun : Source (List Char) :=
  span1 fun c => isPrinted c && c != basicQuote && c != '\\'

/-- Characters of a string without escapes. -/
def literalRun : Source (List Char) :=
  span1 fun c => isPrinted c && c != literalQuote

/-- A string with escapes on one line. -/
def basicString : Source String := do
  char basicQuote
  let parts ← many (either basicRun (return [← escape]))
  within "basic string" (final (char basicQuote))
  return String.ofList parts.flatten

/-- A string without escapes on one line. -/
def literalString : Source String :=
  within "literal string" do
    char literalQuote
    let parts ← many literalRun
    final (char literalQuote)
    return String.ofList parts.flatten

/-- Three quotes. -/
def delimiter (quote : Char) : Source Unit :=
  exactly (String.ofList [quote, quote, quote])

/-- Two quotes or one, in front of something else. -/
def quotesBefore (quote : Char) (follower : Source Unit) : Source (List Char) :=
  let quotes (count : Nat) : Source (List Char) := do
    let run := List.replicate count quote
    exactly (String.ofList run)
    Reader.ahead follower
    return run
  either (quotes 2) (quotes 1)

/-- The characters between three quotes and three quotes, next to which there may be two more; what
stands behind quotes inside is read by `behind`. -/
def textBody (quote : Char) (part : Source (List Char)) (behind : Source (List (List Char))) :
    Source (List Char) := do
  let front ← many part
  let middle ← many do
    let quotes ← quotesBefore quote (satisfy (· != quote) *> pure ())
    return quotes ++ (← behind).flatten
  let quotes ← possibly (quotesBefore quote (delimiter quote))
  return front.flatten ++ middle.flatten ++ quotes.getD []

/-- A string on several lines, which starts behind a line end that follows its quotes. -/
def textString (construct : String) (quote : Char) (body : Source (List Char)) : Source String :=
  within construct do
    delimiter quote
    let _ ← possibly lineEnd
    let chars ← final body
    final (delimiter quote)
    return String.ofList chars

/-- A line end behind a backslash, with all blanks and line ends after it. -/
def continuation : Source Unit := do
  char '\\'
  blanks
  lineEnd
  let _ ← many (either lineEnd (span1 isBlank *> pure ()))

/-- A part of a string with escapes on several lines. -/
def basicPart : Source (List Char) :=
  either basicRun <| either (many1 continuation *> pure []) <| either (return [← escape])
    (lineEnd *> pure ['\n'])

/-- A part of a string without escapes on several lines. -/
def literalPart : Source (List Char) :=
  either literalRun (lineEnd *> pure ['\n'])

/-- A string with escapes on several lines.  Quotes inside are passed over even if nothing follows. -/
def basicText : Source String :=
  textString "multiline basic string" basicQuote (textBody basicQuote basicPart (many basicPart))

/-- A string without escapes on several lines.  Quotes inside are passed over with what follows. -/
def literalText : Source String :=
  textString "multiline literal string" literalQuote
    (textBody literalQuote literalPart (many1 literalPart))

/-- A string. -/
def stringValue : Source String :=
  either basicText <| either basicString <| either literalText literalString

/-- A part of a key. -/
def keyPart : Source String := do
  match ← Reader.peek with
  | none => fail
  | some '\x22' => basicString
  | some '\x27' => literalString
  | some _ => return String.ofList (← span1 isBare)

/-- The number of levels that values and keys stay below. -/
def levels : Nat :=
  80

/-- A key, with blanks around its parts. -/
def key : Source Key :=
  checked
    (fun (first, others) =>
      if others.length + 1 < levels then .ok (Key.ofParts first others) else .error .tooDeep)
    (within "key" (separated1 (char '.') (blanks *> keyPart <* blanks)))

end Toml.Source
end SqlEngine
