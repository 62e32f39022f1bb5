import SqlEngine.Binary64.Text
import SqlEngine.Ron.Basic
import SqlEngine.Ron.Source
import SqlEngine.Text.Numeral

/-!
# RON names and scalars

Names of fields and structures, numbers in four bases, strings with and without escapes, and single
characters.
-/

namespace SqlEngine
namespace Ron.Source

/-- A name of characters that need no sign in front of them. -/
def plainName : Source String := do
  let plain := (← rest).takeWhile inName
  let raw := (← rest).takeWhile inRawName
  if raw.isEmpty then failHere .noName
  if plain.length < raw.length || !raw.head?.any startsName then
    failHere (.noPlainName (String.ofList raw))
  skip plain.length
  return String.ofList plain

/-- A name, which can stand behind a sign for raw names. -/
def name : Source String := do
  match ← rest with
  | [] => failHere .unfinished
  | ['r'] => failHere .unfinished
  | 'r' :: '\x22' :: _ => failHere .noName
  | 'r' :: '#' :: rest =>
    let raw := rest.takeWhile inRawName
    if raw.isEmpty then failHere .noName
    skip (raw.length + 2)
    return String.ofList raw
  | _ => plainName

/-- A name, if one follows. -/
def maybeName : Source (Option String) := fun cursor =>
  match name cursor with
  | .ok (name, behind) => .ok (name, behind)
  | .error _ => .ok (none, cursor)

/-- Passes over a word, if it follows and no longer name. -/
def word (word : String) : Source Bool := do
  let chars ← rest
  if word.toList.isPrefixOf chars && !(chars.drop word.length).head?.any inName then
    skip word.length
    return true
  else return false

/-- Whether a character can stand in a whole number. -/
def inWhole (c : Char) : Bool :=
  Numeral.isHexDigit c || c == '_'

/-- Whether a character can stand in a floating-point number. -/
def inFloat (c : Char) : Bool :=
  c.isDigit || c == 'e' || c == 'E' || c == '.' || c == '+' || c == '-' || c == '_'

/-- The base of a whole number, behind its mark. -/
def base : Source Nat := do
  match (← rest).take 2 with
  | ['0', 'x'] => skip 2 *> pure 16
  | ['0', 'b'] => skip 2 *> pure 2
  | ['0', 'o'] => skip 2 *> pure 8
  | _ => return 10

/-- The whole number of a sign, a base and digits, if it is within 64 bits; one without sign may be
twice as large and is a floating-point number then. -/
def wholeNumber? (sign : Option Char) (base : Nat) (run : List Char) : Option Ron :=
  let digits := run.filter (· != '_')
  let number := Numeral.valueIn base digits
  let signed : Int := if sign = some '-' then -(number : Int) else number
  if !digits.all fun digit => (Numeral.hexValue? digit).any (· < base) then none
  else
    match Numeral.bounded? signed with
    | some number => some (.integer number)
    | none =>
      if sign.isNone && number < 18446744073709551616 then some (.float (.ofInt number)) else none

/-- A whole number, if there is one; otherwise its characters are given back. -/
def whole? : Source (Option Ron) := do
  let chars ← rest
  let sign := chars.head?.filter fun c => c == '+' || c == '-'
  if sign.isSome then skip 1
  let base ← base
  let run := (← rest).takeWhile inWhole
  let misplaced := run.head? == some '_'
  if !misplaced then skip run.length
  let number? := if run.isEmpty || misplaced then none else wholeNumber? sign base run
  if number?.isNone then modify fun cursor => { cursor with rest := chars }
  return number?

/-- Whether the number at the front of a text goes on where a whole number ends. -/
def isFloat (chars : List Char) : Bool :=
  let chars := if chars.head?.any fun c => c == '+' || c == '-' then chars.tail else chars
  (chars.takeWhile inWhole).length < (chars.takeWhile inFloat).length

/-- The first of several words that follows, if one does. -/
def wordOf? : List String → Source (Option String)
  | [] => return none
  | first :: others => do
    if ← word first then return some first else wordOf? others

/-- A floating-point number in digits. -/
def decimal : Source Binary64 := do
  let run := (← rest).takeWhile inFloat
  let front := run.takeWhile (· != '_')
  skip front.length
  if front.length < run.length then failHere .underscore
  match Binary64.ofText? (String.ofList run) with
  | some number => return number
  | none => failHere .noNumber

/-- A floating-point number, in digits or by its name. -/
def float : Source Binary64 := do
  match ← wordOf? ["inf", "+inf", "-inf", "NaN", "+NaN", "-NaN"] with
  | some word => return (Binary64.ofText? word).getD .nan
  | none => decimal

/-- A number. -/
def number : Source Ron := do
  if isFloat (← rest) then return .float (← float)
  match ← whole? with
  | some number => return number
  | none => return .float (← float)

/-- A hexadecimal digit of an escape. -/
def hexDigit : Source Nat := do
  let c ← peek
  match Numeral.hexValue? c with
  | some value => skip 1 *> pure value
  | none => failNext (.escape "Non-hex digit found")

/-- A given character of an escape. -/
def inEscape (expected : Char) (reason : String) : Source Unit := do
  let c ← peek
  if c == expected then skip 1 else failNext (.escape reason)

/-- At most so many hexadecimal digits up to a brace. -/
def numberDigits : Nat → Source (List Nat)
  | 0 => return []
  | most + 1 => do
    let c ← peek
    if c == '\x7d' then return []
    let digit ← hexDigit
    return digit :: (← numberDigits most)

/-- A character with a number in braces. -/
def numbered : Source Char := do
  inEscape '\x7b' "Missing \x7b in Unicode escape"
  let digits ← numberDigits 6
  if digits.isEmpty then failHere (.escape "Expected 1-6 digits, got 0 digits in Unicode escape")
  inEscape '\x7d' "No \x7d at the end of Unicode escape"
  let number := digits.foldl (fun total digit => 16 * total + digit) 0
  if number.isValidChar then return Char.ofNat number
  else failHere (.escape "Not a valid char")

/-- A character behind a backslash. -/
def escape : Source Char := do
  match ← peek with
  | '\x27' => skip 1 *> pure '\x27'
  | '\x22' => skip 1 *> pure '\x22'
  | '\\' => skip 1 *> pure '\\'
  | 'n' => skip 1 *> pure '\n'
  | 'r' => skip 1 *> pure '\r'
  | 't' => skip 1 *> pure '\t'
  | '0' => skip 1 *> pure '\x00'
  | 'x' =>
    let high ← skip 1 *> hexDigit
    let low ← hexDigit
    return Char.ofNat (16 * high + low)
  | 'u' => skip 1 *> numbered
  | _ => failNext (.escape "Unknown escape character")

/-- The next characters of a string, unless it ends; without an end in sight it fails with `cause`. -/
def stringPart (cause : Cause) : Source (Option (List Char)) := do
  let chars ← rest
  let front := chars.takeWhile fun c => c != '\x22' && c != '\\'
  match chars.drop front.length with
  | [] => failHere cause
  | '\x22' :: _ =>
    if front.isEmpty then skip 1 *> pure none else skip front.length *> pure (some front)
  | _ =>
    skip (front.length + 1)
    return some (front ++ [← escape])

/-- A string behind its first quote. -/
def string : Source String := do
  match ← stringPart .noStringEnd with
  | none => return ""
  | some first =>
    let parts ← collect (stringPart .unfinished)
    return String.ofList (first ++ parts.flatten)

/-- The characters of a raw string up to its end, if there is one. -/
def rawChars? (ending : List Char) : List Char → Option (List Char)
  | [] => none
  | c :: chars =>
    if ending.isPrefixOf (c :: chars) then some []
    else (rawChars? ending chars).map (c :: ·)

/-- A string without escapes, which ends with as many number signs as it starts with. -/
def rawString : Source String := do
  let signs ← span (· == '#')
  if !(← consume "\x22") then failHere .noString
  match rawChars? ('\x22' :: signs) (← rest) with
  | none => failHere .noStringEnd
  | some chars =>
    skip (chars.length + signs.length + 1)
    return String.ofList chars

/-- A character that stands for itself, with a quote behind it. -/
def plainCharacter : Source Char := do
  match ← rest with
  | c :: '\x27' :: _ =>
    if c = '\x27' then failHere .noCharacter
    skip 1
    return c
  | _ => failHere .noCharacter

/-- A character behind its first quote. -/
def character : Source Char := do
  let c ← if (← peek) == '\\' then skip 1 *> escape else plainCharacter
  match ← peek with
  | '\x27' => skip 1 *> pure c
  | _ => failNext .noCharacter

end Ron.Source
end SqlEngine
