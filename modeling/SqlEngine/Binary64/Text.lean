import SqlEngine.Binary64.Basic
import SqlEngine.Text.Numeral
import SqlEngine.Text.Scan

/-!
# Binary64 numbers in decimal

A number is written with the fewest digits that read back as the same number, and of several such
texts with the digits nearest to it; it is always written by position, never with an exponent.  The
search tries one digit, two digits and so on, and looks at the two multiples of the last place
between which the number lies.
-/

namespace SqlEngine

/-- The number `digits * 10 ^ exponent`. -/
structure Decimal where
  /-- The digits as a whole number. -/
  digits : Nat
  /-- The power of ten of the last digit. -/
  exponent : Int
  deriving DecidableEq

namespace Decimal

/-- The same number without zeros at the end of its digits. -/
def strip (decimal : Decimal) : Decimal :=
  if decimal.digits ≠ 0 ∧ decimal.digits % 10 = 0 then
    strip ⟨decimal.digits / 10, decimal.exponent + 1⟩
  else decimal
termination_by decimal.digits
decreasing_by omega

/-- The number by position, without an exponent. -/
def positional (decimal : Decimal) : List Char :=
  match decimal.exponent with
  | .ofNat power => Nat.toDigits 10 decimal.digits ++ List.replicate power '0'
  | .negSucc places =>
    let digits := Numeral.padded (places + 2) decimal.digits
    let whole := digits.length - (places + 1)
    digits.take whole ++ '.' :: digits.drop whole

end Decimal

namespace Binary64

/-- The least power of ten above a positive quotient. -/
def decimalPlace (numerator denominator : Nat) : Int :=
  if denominator ≤ numerator then (Nat.toDigits 10 (numerator / denominator)).length
  else 1 - (Nat.toDigits 10 ((denominator - 1) / numerator)).length

/-- The rank that a decimal reads as. -/
def Rank.read (decimal : Decimal) : Rank :=
  ofDecimal decimal.digits decimal.exponent

/-- The better of the two multiples of a power of ten around a magnitude that read back as it, if
one does; at equal distance the upper one. -/
def Rank.around? (rank : Rank) (exponent : Int) : Option Decimal :=
  let numerator := rank.units * Nat.pow 10 (-exponent).toNat
  let denominator := unitsOfOne * Nat.pow 10 exponent.toNat
  let below : Decimal := ⟨numerator / denominator, exponent⟩
  let above : Decimal := ⟨numerator / denominator + 1, exponent⟩
  match decide (read below = rank), decide (read above = rank) with
  | true, true => if 2 * (numerator % denominator) < denominator then below else above
  | true, false => below
  | false, true => above
  | false, false => none

/-- All digits of a magnitude. -/
def Rank.allDigits (rank : Rank) : Decimal :=
  ⟨rank.units * Nat.pow 5 1074, -1074⟩

/-- The fewest digits that read back as a positive finite magnitude. -/
def Rank.shortest (rank : Rank) : Decimal :=
  let place := decimalPlace rank.units unitsOfOne
  let found := (List.range 17).findSome? fun (count : Nat) => rank.around? (place - (count + 1 : Nat))
  (found.getD rank.allDigits).strip

/-- A magnitude as text. -/
def Rank.text (rank : Rank) : List Char :=
  if rank.val = 0 then ['0']
  else if rank.val = infinityRank then "inf".toList
  else rank.shortest.positional

/-- A number as text. -/
def chars : Binary64 → List Char
  | nan => "NaN".toList
  | signed true rank => '-' :: rank.text
  | signed false rank => rank.text

/-- A number as text. -/
def toText (number : Binary64) : String :=
  String.ofList number.chars

/-- A power of ten behind the letter E. -/
def exponentPart : Scan Int := do
  let _ ← Scan.satisfy (·.toLower == 'e')
  let negative ← (Scan.char '-' *> pure true) <|> (Scan.char '+' *> pure false) <|> pure false
  let digits ← Scan.span1 Char.isDigit
  let power : Int := Numeral.value digits
  return if negative then -power else power

/-- Digits with an optional point and an optional exponent; there must be a digit in front of the
exponent. -/
def decimalText : Scan Decimal := do
  let whole ← Scan.span Char.isDigit
  let fraction ← (Scan.char '.' *> Scan.span Char.isDigit) <|> pure []
  if whole.isEmpty && fraction.isEmpty then failure
  let exponent ← exponentPart <|> pure 0
  return ⟨Numeral.value (whole ++ fraction), exponent - fraction.length⟩

/-- A word in any case. -/
def anyCase (word : String) : Scan Unit := fun chars =>
  .ofOption ((Scan.strip? (fun letter c => c.toLower == letter) word.toList chars).map ((), ·))

/-- A number as people write it: a decimal, or the words for infinity and for no number, with an
optional sign. -/
def scan : Scan Binary64 := do
  let negative ← (Scan.char '-' *> pure true) <|> (Scan.char '+' *> pure false) <|> pure false
  (anyCase "infinity" *> pure (signed negative (Rank.ofNat infinityRank)))
    <|> (anyCase "inf" *> pure (signed negative (Rank.ofNat infinityRank)))
    <|> (anyCase "nan" *> pure nan)
    <|> (return signed negative (Rank.read (← decimalText)))

/-- The number a text stands for, correctly rounded. -/
def ofText? (text : String) : Option Binary64 :=
  Scan.whole scan text

end Binary64
end SqlEngine
