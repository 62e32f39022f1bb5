import SqlEngine.Binary64.Text
import SqlEngine.Calendar.Date
import SqlEngine.Duration
import SqlEngine.Toml.Word

/-!
# TOML numbers and moments

Whole numbers in four bases, floating-point numbers, truth values, and dates and times, which are
brought into one normal form.
-/

namespace SqlEngine
namespace Toml.Source

/-- Digits behind a first one, with single underscores between them. -/
def furtherDigits (isDigit : Char → Bool) : Source (List Char) :=
  let digit := satisfy isDigit
  many (either digit (char '_' *> expecting ["digit"] (final digit)))

/-- Digits with single underscores between them. -/
def digitRun (isDigit : Char → Bool) : Source (List Char) := do
  let first ← satisfy isDigit
  return first :: (← furtherDigits isDigit)

/-- An optional sign. -/
def sign : Source (List Char) := do
  return (← possibly (satisfy fun c => c == '+' || c == '-')).toList

/-- A decimal number with an optional sign and no zero in front. -/
def decimalRun : Source (List Char) :=
  within "integer" do
    let sign ← sign
    let digits ← either (do
        let first ← satisfy fun c => c.isDigit && c != '0'
        return first :: (← furtherDigits Char.isDigit))
      (return [← satisfy Char.isDigit])
    return sign ++ digits

/-- A whole number, which must fit into 64 bits. -/
def bounded (number : Int) : Except Fault Toml :=
  match Numeral.bounded? number with
  | some number => .ok (.integer number)
  | none => .error { breach := some (if number < 0 then .tooSmall else .tooLarge) }

/-- The number of digits with an optional sign in front. -/
def signedValue : List Char → Int
  | '-' :: digits => -(Numeral.value digits : Int)
  | '+' :: digits => Numeral.value digits
  | digits => Numeral.value digits

/-- A whole number in a base behind its mark. -/
def based (construct mark : String) (base : Nat) : Source Toml :=
  final <| settled (fun digits => bounded (Numeral.valueIn base digits)) <| within construct do
    exactly mark
    final (digitRun fun c => (Numeral.hexValue? c).any (· < base))

/-- A whole number. -/
def integer : Source Toml := fun chars =>
  match chars with
  | '0' :: 'x' :: _ => based "hexadecimal integer" "0x" 16 chars
  | '0' :: 'o' :: _ => based "octal integer" "0o" 8 chars
  | '0' :: 'b' :: _ => based "binary integer" "0b" 2 chars
  | _ => settled (fun digits => bounded (signedValue digits)) decimalRun chars

/-- A fraction. -/
def fraction : Source (List Char) := do
  char '.'
  return '.' :: (← expecting ["digit"] (final (digitRun Char.isDigit)))

/-- A power of ten. -/
def exponent : Source (List Char) := do
  let _ ← satisfy fun c => c == 'e' || c == 'E'
  let sign ← sign
  return 'e' :: sign ++ (← final (digitRun Char.isDigit))

/-- A decimal with a fraction, a power of ten or both. -/
def fractional : Source (List Char) := do
  let whole ← decimalRun
  let rest ← either exponent (do
    let fraction ← fraction
    return fraction ++ ((← possibly exponent).getD []))
  return whole ++ rest

/-- The floating-point number of a decimal, which must not be above all finite ones. -/
def finite (chars : List Char) : Except Fault Toml :=
  match Binary64.ofText? (String.ofList chars) with
  | some number => if number = Binary64.infinity then .error {} else .ok (.float number)
  | none => .error {}

/-- Infinity. -/
def infinity : Source Binary64 :=
  exactly "inf" *> pure Binary64.infinity

/-- Not a number. -/
def notNumber : Source Binary64 :=
  exactly "nan" *> pure .nan

/-- Infinity with an optional sign, or not a number. -/
def special : Source Toml := do
  let sign ← sign
  match ← either infinity notNumber with
  | .nan => return .float .nan
  | .signed _ rank => return .float (.signed (sign == ['-']) rank)

/-- A floating-point number. -/
def float : Source Toml :=
  within "floating-point number" (either (settled finite fractional) special)

/-- A number of exactly `count` digits. -/
def fixed (count : Nat) : Source Nat := do
  return Numeral.value (← exactlyMany count Char.isDigit)

/-- A number of two digits between two bounds. -/
def ranged (least most : Nat) : Source Nat :=
  checked (fun number => if least ≤ number ∧ number ≤ most then .ok number else .error .outOfRange)
    (fixed 2)

/-- A date, in normal form. -/
def date : Source (List Char) := do
  let year ← fixed 4
  char '-'
  let month ← final (ranged 1 12)
  final (char '-')
  let day ← final (ranged 1 (daysInMonth year month))
  return Numeral.padded 4 year ++ '-' :: Numeral.padded 2 month ++ '-' :: Numeral.padded 2 day

/-- A fraction of a second, in normal form; digits past the ninth are dropped. -/
def secondFraction : Source (List Char) := do
  char '.'
  let digits := (← span1 Char.isDigit).take 9
  return Duration.fractionChars 9 (Numeral.value digits * Nat.pow 10 (9 - digits.length))

/-- A time, in normal form. -/
def time : Source (List Char) := do
  let hour ← ranged 0 23
  char ':'
  final do
    let minute ← ranged 0 59
    char ':'
    let second ← ranged 0 60
    let fraction ← possibly secondFraction
    return Numeral.padded 2 hour ++ ':' :: Numeral.padded 2 minute ++ ':' :: Numeral.padded 2 second
      ++ fraction.getD []

/-- The distance to universal time, in normal form: none at all has the sign plus. -/
def distance : Source (List Char) :=
  within "time offset" <|
    either (satisfy (fun c => c == 'Z' || c == 'z') *> pure ['Z']) do
      let sign ← satisfy fun c => c == '+' || c == '-'
      final do
        let hours ← ranged 0 23
        char ':'
        let minutes ← ranged 0 59
        let sign := if hours = 0 ∧ minutes = 0 then '+' else sign
        return sign :: Numeral.padded 2 hours ++ ':' :: Numeral.padded 2 minutes

/-- A time behind a date, with an optional distance to universal time. -/
def timeBehind : Source (List Char) := do
  let _ ← satisfy fun c => c == 'T' || c == 't' || c == ' '
  return 'T' :: (← time) ++ ((← possibly distance).getD [])

/-- A date, a time, or both. -/
def moment : Source Toml := do
  let chars ← either
    (within "date-time" do
      let date ← date
      return date ++ ((← possibly timeBehind).getD []))
    (within "time" time)
  return .moment (String.ofList chars)

/-- A word in place of a value, which is taken for a text without quotes if it is misspelt. -/
def word (item : Source Toml) : Source Toml :=
  expecting (marks ['\x22', '\x27']) (within "string" item)

/-- A value that has no values in it, by the character that it starts with. -/
def scalar (first : Char) : Source Toml :=
  if first == '\x22' || first == '\x27' then .string <$> stringValue
  else if first == '+' || first == '-' || first.isDigit then either moment (either float integer)
  else if first == '_' then expecting ["leading digit"] integer
  else if first == '.' then expecting ["leading digit"] float
  else if first == 't' then word (final (exactly "true") *> pure (.boolean true))
  else if first == 'f' then word (final (exactly "false") *> pure (.boolean false))
  else if first == 'i' then word (.float <$> infinity)
  else if first == 'n' then word (.float <$> notNumber)
  else word fail

end Toml.Source
end SqlEngine
