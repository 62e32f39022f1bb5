import SqlEngine.Datum
import SqlEngine.Json.Fault
import SqlEngine.Text.Numeral

/-!
# JSON numbers

A whole number within 64 bits is one; any other number is a floating-point number, which is computed
from at most 64 bits of its digits by one product or quotient with a power of ten, or by several
quotients if the power is too large for one.
-/

namespace SqlEngine

/-- The digits of a number that fit into 64 bits behind `significand`, and how many they are. -/
def Json.absorb (significand : Nat) : List Char → Nat × Nat
  | [] => (significand, 0)
  | digit :: digits =>
    let larger := 10 * significand + Numeral.digitValue digit
    if larger < 18446744073709551616 then
      let (significand, count) := absorb larger digits
      (significand, count + 1)
    else (significand, 0)

/-- A magnitude divided by a power of ten. -/
def Json.lowered (rank : Binary64.Rank) (power : Nat) : Binary64.Rank :=
  if power ≤ 308 then rank.quotient (Binary64.Rank.ofDecimal 1 power)
  else if rank.val = 0 then rank
  else lowered (rank.quotient (Binary64.Rank.ofDecimal 1 308)) (power - 308)
termination_by power

/-- The magnitude of digits with a power of ten, unless it is out of range. -/
def Json.scaled? (significand : Nat) (exponent : Int) : Option Binary64.Rank :=
  let rank := Binary64.Rank.ofDecimal significand 0
  match exponent with
  | .negSucc power => some (lowered rank (power + 1))
  | .ofNat power =>
    if 308 < power then if rank.val = 0 then some rank else none
    else
      let rank := rank.product (Binary64.Rank.ofDecimal 1 power)
      if rank.val = Binary64.infinityRank then none else some rank

namespace Json.Source

/-- The floating-point number of digits with a power of ten. -/
def scaled (negative : Bool) (significand : Nat) (exponent : Int) : Source Datum :=
  match scaled? significand exponent with
  | some rank => return .float (.signed negative rank)
  | none => failHere .outOfRange

/-- The number of the digits of a power of ten, if it fits into 32 bits with sign, and the digits
behind it otherwise. -/
def power? (total : Nat) : List Char → Nat ⊕ List Char
  | [] => .inl total
  | digit :: digits =>
    let larger := 10 * total + Numeral.digitValue digit
    if larger < 2147483648 then power? larger digits else .inr digits

/-- A power of ten behind the letter E, and the number with it. -/
def withPower (negative : Bool) (significand : Nat) (exponent : Int) : Source Datum := do
  Reader.skip 1
  let sign ← Reader.spanUpTo 1 fun c => c == '+' || c == '-'
  match ← Reader.peek with
  | none => failHere .unfinishedValue
  | some c => if !c.isDigit then failNext .malformedNumber
  let lowers := sign == ['-']
  let digits ← Reader.span Char.isDigit
  match power? 0 digits with
  | .inl power =>
    let power : Int := if lowers then -(power : Int) else power
    scaled negative significand (exponent + power)
  | .inr rest =>
    if significand ≠ 0 && !lowers then
      fun chars => failHere .outOfRange (rest ++ chars)
    else return .float (.signed negative (Binary64.Rank.ofNat 0))

/-- A power of ten, if there is one, and the number with it. -/
def maybePower (negative : Bool) (significand : Nat) (exponent : Int) : Source Datum := do
  match ← Reader.peek with
  | some 'e' => withPower negative significand exponent
  | some 'E' => withPower negative significand exponent
  | _ => scaled negative significand exponent

/-- A fraction, and the number with it. -/
def withFraction (negative : Bool) (significand : Nat) (exponent : Int) : Source Datum := do
  Reader.skip 1
  let digits ← Reader.span Char.isDigit
  if digits.isEmpty then
    let cause := (← Reader.peek).elim Cause.unfinishedValue fun _ => .malformedNumber
    failNext cause
  let (significand, count) := absorb significand digits
  maybePower negative significand (exponent - count)

/-- The number that whole digits stand for. -/
def whole (negative : Bool) (significand : Nat) : Datum :=
  let number : Int := if negative then -(significand : Int) else significand
  match Numeral.bounded? number with
  | some integer =>
    if negative && significand = 0 then .float (.signed true (Binary64.Rank.ofNat 0))
    else .integer integer
  | none => .float (.signed negative (Binary64.Rank.ofDecimal significand 0))

/-- What follows the whole digits of a number, and the number with it. -/
def behindWhole (negative : Bool) (digits : List Char) : Source Datum := do
  let (significand, count) := absorb 0 digits
  let exponent : Int := (digits.length - count : Nat)
  match ← Reader.peek with
  | some '.' => withFraction negative significand exponent
  | some 'e' => withPower negative significand exponent
  | some 'E' => withPower negative significand exponent
  | _ =>
    if count < digits.length then scaled negative significand exponent
    else return whole negative significand

/-- A number behind its sign, which has no zero in front of other whole digits. -/
def number (negative : Bool) : Source Datum := do
  let zero ← Reader.spanUpTo 1 (· == '0')
  match ← Reader.peek with
  | none => if zero.isEmpty then failHere .unfinishedValue else behindWhole negative zero
  | some c =>
    if c.isDigit == zero.isEmpty then behindWhole negative (zero ++ (← Reader.span Char.isDigit))
    else failNext .malformedNumber

end Json.Source
end SqlEngine
