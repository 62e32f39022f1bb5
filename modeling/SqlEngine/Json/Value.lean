import SqlEngine.Json.Number

/-!
# JSON values

Words, strings, lists and objects.  Of the entries of an object with one key the last one counts.
-/

namespace SqlEngine
namespace Json.Source

/-- Blanks and line ends. -/
def blanks : Source Unit := do
  let _ ← Reader.span fun c => c == ' ' || c == '\t' || c == '\n' || c == '\r'

/-- The characters of a word behind its first. -/
def word : List Char → Source Unit
  | [] => return
  | expected :: letters => do
    match ← Reader.peek with
    | none => failHere .unfinishedValue
    | some c => if c == expected then Reader.skip 1 *> word letters else failNext .noWord

/-- A number of four hexadecimal digits. -/
def fourDigits : Source Nat := fun chars =>
  let digits := chars.take 4
  if digits.foldl (fun total c => total + c.utf8Size) 0 < 4 then
    failHere .unfinishedString []
  else if digits.all Numeral.isHexDigit then .ok (Numeral.valueIn 16 digits, chars.drop 4)
  else Reader.fail { cause := .malformedEscape, ahead := 4 } chars

/-- One given character inside a surrogate pair. -/
def inPair (expected : Char) : Source Unit := do
  match ← Reader.peek with
  | none => failHere .unfinishedString
  | some c => if c == expected then Reader.skip 1 else failNext .unfinishedPair

/-- The character of a number in four digits, or of a surrogate pair. -/
def numberedChar : Source Char := do
  let first ← fourDigits
  if 0xDC00 ≤ first && first ≤ 0xDFFF then failHere .loneSurrogate
  else if first < 0xD800 || 0xDBFF < first then return Char.ofNat first
  else
    inPair '\\'
    inPair 'u'
    let second ← fourDigits
    if second < 0xDC00 || 0xDFFF < second then failHere .loneSurrogate
    else return Char.ofNat (0x10000 + 1024 * (first - 0xD800) + (second - 0xDC00))

/-- A character behind a backslash. -/
def escape : Source Char := do
  match ← Reader.peek with
  | none => failHere .unfinishedString
  | some '\x22' => Reader.skip 1 *> pure '\x22'
  | some '\\' => Reader.skip 1 *> pure '\\'
  | some '/' => Reader.skip 1 *> pure '/'
  | some 'b' => Reader.skip 1 *> pure '\x08'
  | some 'f' => Reader.skip 1 *> pure '\x0c'
  | some 'n' => Reader.skip 1 *> pure '\n'
  | some 'r' => Reader.skip 1 *> pure '\r'
  | some 't' => Reader.skip 1 *> pure '\t'
  | some 'u' => Reader.skip 1 *> numberedChar
  | some _ => failNext .malformedEscape

/-- A part of a string, unless the string ends. -/
def stringPart : Source (Option (List Char)) := do
  match ← Reader.peek with
  | none => failHere .unfinishedString
  | some '\x22' => Reader.skip 1 *> pure none
  | some '\\' => Reader.skip 1 *> (return some [← escape])
  | some c =>
    if c < ' ' then failNext .controlCharacter
    else return some (← Reader.span fun c => ' ' ≤ c && c != '\x22' && c != '\\')

/-- A string behind its first quote. -/
def string : Source String := do
  return String.ofList (← Reader.collect stringPart).flatten

/-- An element of a list behind a comma. -/
def itemBehindComma (item : Source Datum) : Source Datum := do
  blanks
  match ← Reader.peek with
  | none => failNext .unfinishedValue
  | some ']' => failNext .trailingComma
  | some _ => item

/-- A further element of a list, unless the list ends. -/
def nextItem (item : Source Datum) : Source (Option Datum) := do
  blanks
  match ← Reader.peek with
  | none => failNext .unfinishedList
  | some ']' => Reader.skip 1 *> pure none
  | some ',' => some <$> (Reader.skip 1 *> itemBehindComma item)
  | some _ => failNext .noListEnd

/-- A list behind its first bracket. -/
def list (item : Source Datum) : Source Datum := do
  blanks
  match ← Reader.peek with
  | none => failNext .unfinishedList
  | some ']' => Reader.skip 1 *> pure (.list [])
  | some _ =>
    let first ← item
    return .list (first :: (← Reader.collect (nextItem item)))

/-- An entry of an object behind the first quote of its key. -/
def entry (item : Source Datum) : Source (String × Datum) := do
  let key ← string
  blanks
  match ← Reader.peek with
  | none => failNext .unfinishedObject
  | some ':' => Reader.skip 1 *> (return (key, ← item))
  | some _ => failNext .noColon

/-- An entry of an object behind a comma. -/
def entryBehindComma (item : Source Datum) : Source (String × Datum) := do
  blanks
  match ← Reader.peek with
  | none => failNext .unfinishedValue
  | some '\x7d' => failNext .trailingComma
  | some '\x22' => Reader.skip 1 *> entry item
  | some _ => failNext .noKey

/-- A further entry of an object, unless the object ends. -/
def nextEntry (item : Source Datum) : Source (Option (String × Datum)) := do
  blanks
  match ← Reader.peek with
  | none => failNext .unfinishedObject
  | some '\x7d' => Reader.skip 1 *> pure none
  | some ',' => some <$> (Reader.skip 1 *> entryBehindComma item)
  | some _ => failNext .noObjectEnd

/-- An object behind its first brace. -/
def object (item : Source Datum) : Source Datum := do
  blanks
  match ← Reader.peek with
  | none => failNext .unfinishedObject
  | some '\x7d' => Reader.skip 1 *> pure (.table [])
  | some '\x22' =>
    let first ← Reader.skip 1 *> entry item
    return .table (first :: (← Reader.collect (nextEntry item)))
  | some _ => failNext .noKey

/-- A value, of which a nested one is read by `nested` where one is allowed. -/
def valueAround (nested : Option (Source Datum)) : Source Datum := do
  blanks
  match ← Reader.peek with
  | none => failNext .unfinishedValue
  | some first =>
    if first == '[' || first == '\x7b' then
      match nested with
      | none => failNext .tooDeep
      | some item => Reader.skip 1 *> if first == '[' then list item else object item
    else if first == 'n' then Reader.skip 1 *> word "ull".toList *> pure .null
    else if first == 't' then Reader.skip 1 *> word "rue".toList *> pure (.boolean true)
    else if first == 'f' then Reader.skip 1 *> word "alse".toList *> pure (.boolean false)
    else if first == '-' then Reader.skip 1 *> number true
    else if first.isDigit then number false
    else if first == '\x22' then Reader.skip 1 *> (return .text (← string))
    else failNext .noValue

/-- A value with at most `depth` values around one in it. -/
def value : Nat → Source Datum
  | 0 => valueAround none
  | depth + 1 => valueAround (some (value depth))

/-- A value alone. -/
def document : Source Datum := do
  let value ← value 127
  blanks
  match ← Reader.peek with
  | none => return value
  | some _ => failNext .trailingCharacters

end Json.Source

/-- The value of a text, or the report on its fault. -/
def Json.parse (text : String) : Except String Datum :=
  match Source.document text.toList with
  | .ok (value, _) => .ok value
  | .error failure => .error (failure.fault.report text failure.rest)

end SqlEngine
