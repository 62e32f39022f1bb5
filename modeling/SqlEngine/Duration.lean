import SqlEngine.Binary64.Text

/-!
# Durations

A span of time is counted in nanoseconds.  It is written as a list of amounts with units, `2h45m` or
`1.5s`, and shown in reports in the largest unit that it fills.
-/

namespace SqlEngine

/-- A span of time in nanoseconds. -/
abbrev Duration := Nat

namespace Duration

/-- A thousand nanoseconds. -/
def microsecond : Duration :=
  1000

/-- A thousand microseconds. -/
def millisecond : Duration :=
  1000000

/-- A thousand milliseconds. -/
def second : Duration :=
  1000000000

/-- The digits of a fraction of a unit, without zeros at the end. -/
def fractionChars (places fraction : Nat) : List Char :=
  if fraction = 0 then []
  else '.' :: ((Numeral.padded places fraction).reverse.dropWhile (· == '0')).reverse

/-- A whole amount of a unit of 10^places nanoseconds, and the fraction left over. -/
def amountChars (places : Nat) (duration : Duration) : List Char :=
  Nat.toDigits 10 (duration / Nat.pow 10 places) ++ fractionChars places (duration % Nat.pow 10 places)

/-- A duration in the largest unit that it fills. -/
def report (duration : Duration) : String :=
  String.ofList <|
    if second ≤ duration then amountChars 9 duration ++ ['s']
    else if millisecond ≤ duration then amountChars 6 duration ++ ['m', 's']
    else if microsecond ≤ duration then amountChars 3 duration ++ ['µ', 's']
    else amountChars 0 duration ++ ['n', 's']

/-- A unit, as a number of nanoseconds. -/
def unit : Scan Nat :=
  (Scan.exactly "ns" *> pure 1)
    <|> (Scan.exactly "us" *> pure microsecond)
    <|> (Scan.exactly "\u00b5s" *> pure microsecond)
    <|> (Scan.exactly "\u03bcs" *> pure microsecond)
    <|> (Scan.exactly "ms" *> pure millisecond)
    <|> (Scan.exactly "s" *> pure second)
    <|> (Scan.exactly "m" *> pure (60 * second))
    <|> (Scan.exactly "h" *> pure (3600 * second))

/-- An amount: digits with a point somewhere, and a digit on at least one side of it. -/
def amount : Scan Decimal := do
  let whole ← Scan.span Char.isDigit
  if whole.isEmpty then
    Scan.char '.'
    let fraction ← Scan.span1 Char.isDigit
    return ⟨Numeral.value fraction, -fraction.length⟩
  else
    let fraction ← (Scan.char '.' *> Scan.span Char.isDigit) <|> pure []
    return ⟨Numeral.value (whole ++ fraction), -fraction.length⟩

/-- An amount of a unit, in nanoseconds. -/
def term : Scan Binary64.Rank := do
  let amount ← amount
  return (Binary64.Rank.read amount).times (← unit)

/-- The sum of several amounts, or a zero without a unit. -/
def total : Scan Binary64.Rank :=
  (return (← Scan.many1 term).foldl Binary64.Rank.add (Binary64.Rank.ofNat 0))
    <|> (Scan.char '0' *> pure (Binary64.Rank.ofNat 0))

/-- A sign, which is negative or not, and a total. -/
def signedTotal : Scan (Bool × Binary64.Rank) := do
  let negative ← (Scan.char '-' *> pure true) <|> (Scan.char '+' *> pure false) <|> pure false
  return (negative, ← total)

/-- Why a text is no duration. -/
inductive Fault where
  /-- The text has not the form of a duration. -/
  | invalid
  /-- The duration is negative. -/
  | negative
  deriving DecidableEq

/-- The longest duration. -/
def longest : Duration :=
  18446744073709551615

/-- The duration a text stands for, to the nearest nanosecond and no longer than the longest. -/
def ofText (text : String) : Except Fault Duration :=
  match Scan.whole signedTotal text with
  | none => .error .invalid
  | some (negative, rank) =>
    if negative && rank.val != 0 then .error .negative else .ok (min rank.toNat longest)

end Duration
end SqlEngine
