/-!
# Numerals

Reading and writing of whole numbers in ASCII digits, with the bounds of 64-bit words.
-/

namespace SqlEngine
namespace Numeral

/-- The number a digit stands for. -/
def digitValue (digit : Char) : Nat :=
  digit.toNat - '0'.toNat

/-- The number a list of digits stands for. -/
def value (digits : List Char) : Nat :=
  digits.foldl (fun total digit => 10 * total + digitValue digit) 0

/-- The number a hexadecimal digit stands for. -/
def hexValue? (digit : Char) : Option Nat :=
  if digit.isDigit then some (digitValue digit)
  else if 'a' ≤ digit && digit ≤ 'f' then some (digit.toNat - 'a'.toNat + 10)
  else if 'A' ≤ digit && digit ≤ 'F' then some (digit.toNat - 'A'.toNat + 10)
  else none

/-- Whether a character is a hexadecimal digit. -/
def isHexDigit (c : Char) : Bool :=
  (hexValue? c).isSome

/-- The number a list of digits stands for in a base of at most sixteen. -/
def valueIn (base : Nat) (digits : List Char) : Nat :=
  digits.foldl (fun total digit => base * total + (hexValue? digit).getD 0) 0

/-- The number written by a nonempty list of digits. -/
def natural? (chars : List Char) : Option Nat :=
  if chars.isEmpty || !chars.all Char.isDigit then none else some (value chars)

/-- A number below 2^64, perhaps with a plus sign. -/
def unsigned? (chars : List Char) : Option Nat := do
  let number ← natural? (match chars with
    | '+' :: rest => rest
    | _ => chars)
  if number < 18446744073709551616 then some number else none

/-- A number as one of 64 bits with sign, if it is within their bounds. -/
def bounded? (number : Int) : Option Int64 :=
  if -9223372036854775808 ≤ number && number ≤ 9223372036854775807 then some (Int64.ofInt number)
  else none

/-- A number of 64 bits with sign, the sign of a positive number being optional. -/
def integer? (chars : List Char) : Option Int64 := do
  let number : Int ← match chars with
    | '-' :: rest => (natural? rest).map fun n => -(n : Int)
    | '+' :: rest => (natural? rest).map fun n => (n : Int)
    | _ => (natural? chars).map fun n => (n : Int)
  bounded? number

/-- A number in at least `width` digits. -/
def padded (width number : Nat) : List Char :=
  let digits := Nat.toDigits 10 number
  List.replicate (width - digits.length) '0' ++ digits

end Numeral
end SqlEngine
