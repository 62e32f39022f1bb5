import SqlEngine.Binary64.Text
import SqlEngine.Datum
import SqlEngine.Json5.Piece
import SqlEngine.Json5.Source
import SqlEngine.Text.Letter
import SqlEngine.Text.Mark

/-!
# JSON5 values

JSON5 is JSON with comments, names without quotes for keys, strings in single quotes that may go over
several lines, commas behind the last items, and more forms of numbers.
-/

namespace SqlEngine
namespace Json5
namespace Source

/-- Whether a character ends a line. -/
def isLineEnd (c : Char) : Bool :=
  c == '\n' || c == '\r' || c == '\u2028' || c == '\u2029'

/-- Whether a character is a blank or ends a line. -/
def isBlank (c : Char) : Bool :=
  isLineEnd c || c == '\t' || c == '\x0b' || c == '\x0c' || c == ' ' || c == '\u00a0'
    || c == '\ufeff' || c == '\u1680' || '\u2000' ≤ c && c ≤ '\u200a' || c == '\u202f'
    || c == '\u205f' || c == '\u3000'

/-- What follows the end of a comment between two marks, if it has one. -/
def behindComment? : List Char → Option (List Char)
  | [] => none
  | '*' :: '/' :: rest => some rest
  | _ :: rest => behindComment? rest

/-- Passes over blanks or a comment. -/
def gap (_ : Unit) : Source (Option Unit) := do
  let reading ← get
  match reading.rest with
  | '/' :: '/' :: rest =>
    set { reading with rest := rest.dropWhile fun c => !isLineEnd c }
    return some ()
  | '/' :: '*' :: rest =>
    match behindComment? rest with
    | some rest =>
      set { reading with rest }
      return some ()
    | none => return none
  | c :: rest =>
    if isBlank c then
      set { reading with rest := rest.dropWhile isBlank }
      return some ()
    else return none
  | [] => return none

/-- Passes over blanks and comments. -/
def gaps : Source Unit :=
  repeated gap ()

/-- So many hexadecimal digits. -/
def digits (construct : String) (count : Nat) : Source (List Char) := do
  let digits := (← get).rest.take count
  if digits.length < count || !digits.all Numeral.isHexDigit then
    note construct
    fail
  skip count
  return digits

/-- A piece by a number of sixteen bits, behind its letter. -/
def unicodeUnit : Source Piece := do
  return .unit (← digits "unicode_escape_sequence" 4)

/-- Passes over a line end behind a backslash. -/
def lineEnd : Source Unit := do
  if !(← consume "\r\n") then skip 1

/-- What stands behind a backslash: a line end there is passed over. -/
def escape : Source (List Piece) := do
  match ← peek with
  | none =>
    note "char_escape_sequence"
    note "nul_escape_sequence"
    fail
  | some c =>
    if !c.isDigit && c != 'x' && c != 'u' && !isLineEnd c then skip 1 *> pure [.escaped c]
    else
      note "char_escape_sequence"
      if c == '0' then
        skip 1
        return [.escaped c]
      note "nul_escape_sequence"
      if c.isDigit then fail
      else if isLineEnd c then lineEnd *> pure []
      else if c == 'x' then return [.byte (← skip 1 *> digits "hex_escape_sequence" 2)]
      else return [← skip 1 *> unicodeUnit]

/-- The next pieces of a string, unless it ends. -/
def stringPart (quote : Char) (pieces : List Piece) : Source (Option (List Piece)) := do
  match ← peek with
  | none =>
    note "char_literal"
    fail
  | some c =>
    if c == quote then return none
    else if c == '\\' then return some ((← skip 1 *> escape) ++ pieces)
    else if isLineEnd c then
      note "char_literal"
      fail
    else
      let front ← span fun c => c != quote && c != '\\' && !isLineEnd c
      return some ((front.map .literal).reverse ++ pieces)

/-- A string between quotes. -/
def string (quote : Char) : Source String := do
  skip 1
  let pieces ← repeated (stringPart quote) []
  skip 1
  hold (Piece.join pieces.reverse) ""

/-- Whether a character can stand at the front of a name. -/
def startsName (c : Char) : Bool :=
  Text.isLetter c || c == '$' || c == '_'

/-- Whether a character can stand in a name. -/
def inName (c : Char) : Bool :=
  startsName c || Text.isMark c || c == '\u200c' || c == '\u200d'

/-- The next pieces of a name, unless it ends. -/
def namePart (pieces : List Piece) : Source (Option (List Piece)) := do
  match (← get).rest with
  | '\\' :: 'u' :: _ => return some ((← skip 2 *> unicodeUnit) :: pieces)
  | c :: _ =>
    if inName c then return some (((← span inName).map .literal).reverse ++ pieces) else return none
  | [] => return none

/-- A name without quotes, if one follows. -/
def name? : Source (Option String) := do
  match (← get).rest with
  | [] => return none
  | c :: rest =>
    if startsName c || c == '\\' && rest.head? == some 'u' then
      let pieces ← repeated namePart []
      return some (← hold (Piece.join pieces.reverse) "")
    else return none

/-- A key: a name or a string. -/
def key : Source String := do
  match ← name? with
  | some name => return name
  | none =>
    note "identifier"
    match ← peek with
    | some '\x22' => orElse ["string"] (string '\x22')
    | some '\x27' => orElse ["string"] (string '\x27')
    | _ =>
      note "string"
      fail

/-- How many characters a power of ten has at the front of a text. -/
def exponentLength (chars : List Char) : Nat :=
  match chars with
  | c :: rest =>
    if c == 'e' || c == 'E' then
      let sign := if rest.head?.any fun c => c == '+' || c == '-' then 1 else 0
      let digits := ((rest.drop sign).takeWhile Char.isDigit).length
      if digits = 0 then 0 else 1 + sign + digits
    else 0
  | [] => 0

/-- How many characters a decimal without sign has at the front of a text. -/
def decimalLength (chars : List Char) : Nat :=
  let whole := if chars.head? == some '0' then 1 else (chars.takeWhile Char.isDigit).length
  let fraction := match chars.drop whole with
    | '.' :: rest =>
      let digits := (rest.takeWhile Char.isDigit).length
      if whole = 0 && digits = 0 then 0 else 1 + digits
    | _ => 0
  if whole + fraction = 0 then 0
  else whole + fraction + exponentLength (chars.drop (whole + fraction))

/-- How many characters a number without sign has at the front of a text. -/
def magnitudeLength (chars : List Char) : Nat :=
  let hexadecimal := match chars with
    | '0' :: x :: rest =>
      if x == 'x' || x == 'X' then (rest.takeWhile Numeral.isHexDigit).length else 0
    | _ => 0
  if hexadecimal ≠ 0 then 2 + hexadecimal
  else if decimalLength chars ≠ 0 then decimalLength chars
  else if "Infinity".toList.isPrefixOf chars then 8
  else if "NaN".toList.isPrefixOf chars then 3
  else 0

/-- The text of a number, if one follows. -/
def numberText? : Source (Option String) := do
  let chars := (← get).rest
  let sign := if chars.head?.any fun c => c == '+' || c == '-' then 1 else 0
  let length := magnitudeLength (chars.drop sign)
  if length = 0 then return none
  skip (sign + length)
  return String.ofList (chars.take (sign + length))

/-- The number of a text in decimal, or the report on why it cannot be held. -/
def decimalOf (text : String) : Except String Datum :=
  let fractional := text.toList.any fun c => c == '.' || c == 'e' || c == 'E'
  if fractional || text ∈ ["Infinity", "-Infinity", "NaN", "-NaN"] then
    match Binary64.ofText? text with
    | none => .error "error parsing number"
    | some number =>
      if fractional && number.isInfinite then .error "error parsing number: too large"
      else .ok (.float number)
  else
    (Numeral.integer? text.toList).elim (.error "error parsing integer") fun number =>
      .ok (.integer number)

/-- The number of a text, or the report on why it cannot be held.  Hexadecimal numbers have no sign
and fit into 32 bits. -/
def numberOf (text : String) : Except String Datum :=
  match text.toList with
  | '0' :: x :: rest =>
    if x != 'x' && x != 'X' || rest.isEmpty then decimalOf text
    else
      let number := Numeral.valueIn 16 rest
      if number < 4294967296 then .ok (.integer (.ofNat number)) else .error "error parsing hex"
  | _ => decimalOf text

/-- A further item behind a comma, unless the items end. -/
def nextItem {α : Type} (closing : Char) (item : Source α) (items : List α) :
    Source (Option (List α)) := do
  gaps
  if (← peek) != some ',' then return none
  let reading ← get
  skip 1
  gaps
  match item (← get) with
  | .ok (value, reading) =>
    set reading
    return some (value :: items)
  | .error failed =>
    if (← peek) == some closing then
      modify fun behind => { failed with rest := behind.rest }
      return none
    else
      set { failed with rest := reading.rest }
      fail

/-- Items with commas between them behind an opening bracket, with the closing one. -/
def items {α : Type} (closing : Char) (item : Source α) : Source (List α) := do
  skip 1
  gaps
  if (← peek) == some closing then
    skip 1
    return []
  let first ← item
  let items ← repeated (nextItem closing item) [first]
  gaps
  if (← peek) == some closing then
    skip 1
    return items.reverse
  else fail

/-- A key and its value. -/
def entry (value : Source Datum) : Source (String × Datum) := do
  let key ← key
  gaps
  if !(← consume ":") then fail
  gaps
  return (key, ← value)

/-- A value, of which `nested` reads the values inside. -/
def valueAround (nested : Source Datum) : Source Datum := do
  if ← consume "null" then return .null
  note "null"
  if ← consume "true" then return .boolean true
  if ← consume "false" then return .boolean false
  note "boolean"
  let afterStrings := ["string", "number", "object", "array"]
  let first ← peek
  if first == some '\x22' then return .text (← orElse afterStrings (string '\x22'))
  if first == some '\x27' then return .text (← orElse afterStrings (string '\x27'))
  note "string"
  match ← numberText? with
  | some text => hold (numberOf text) .null
  | none =>
    note "number"
    if first == some '\x7b' then
      return .table (← orElse ["object", "array"] (items '\x7d' (entry nested)))
    note "object"
    if first == some '[' then return .list (← orElse ["array"] (items ']' nested))
    note "array"
    fail

/-- A value with at most so many levels. -/
def value : Nat → Source Datum
  | 0 => fail
  | depth + 1 => valueAround (value depth)

/-- A value alone. -/
def document : Source Datum := do
  gaps
  let value ← value ((← get).rest.length + 1)
  gaps
  if (← get).rest.isEmpty then return value
  note "EOI"
  fail

end Source

/-- The value of a text, or the report on its fault. -/
def parse (text : String) : Except String Datum :=
  match Source.document (Reading.start text) with
  | .ok (value, reading) => reading.wrong.elim (.ok value) .error
  | .error reading => .error (reading.report text)

end Json5
end SqlEngine
