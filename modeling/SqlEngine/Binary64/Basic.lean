/-!
# Binary64 numbers

A number of the 64-bit binary floating-point format.  The magnitudes of the format, from zero
through the finite ones to infinity, are counted upwards; the place of a magnitude in that count is
its rank.  Every finite magnitude is a whole number of units of 2^-1074, so that rounding, order
and sums are computed exactly on natural numbers.
-/

namespace SqlEngine

/-- The whole number nearest to a quotient, and of two equally near ones the even one. -/
def roundQuotient (numerator denominator : Nat) : Nat :=
  let floor := numerator / denominator
  let twice := 2 * (numerator % denominator)
  if twice < denominator then floor
  else if denominator < twice then floor + 1
  else floor + floor % 2

namespace Binary64

/-- The number of ranks with one and the same power of two, which is 2^52. -/
def ranksOfPower : Nat :=
  4503599627370496

/-- The rank of infinity. -/
def infinityRank : Nat :=
  2047 * ranksOfPower

/-- The place of a magnitude in the ascending count of all magnitudes. -/
abbrev Rank :=
  Fin (infinityRank + 1)

/-- The rank with a given number, or infinity if there are not that many. -/
def Rank.ofNat (rank : Nat) : Rank :=
  ⟨min rank infinityRank, Nat.lt_succ_of_le (Nat.min_le_right ..)⟩

/-- One, in the unit in which all finite magnitudes are whole numbers. -/
def unitsOfOne : Nat :=
  Nat.pow 2 1074

/-- The magnitude of a rank in units; that of infinity is the first power of two out of reach. -/
def Rank.units (rank : Rank) : Nat :=
  if rank.val < ranksOfPower then rank.val
  else (ranksOfPower + rank.val % ranksOfPower) * Nat.pow 2 (rank.val / ranksOfPower - 1)

/-- The rank nearest to a quotient of units, and of two equally near ones the even one. -/
def Rank.nearest (numerator denominator : Nat) : Rank :=
  let scale := (numerator / denominator).log2 - 52
  ofNat (scale * ranksOfPower + roundQuotient numerator (denominator * Nat.pow 2 scale))

/-- The rank nearest to the sum of two magnitudes. -/
def Rank.add (left right : Rank) : Rank :=
  nearest (left.units + right.units) 1

/-- The rank nearest to a multiple of a magnitude. -/
def Rank.times (rank : Rank) (factor : Nat) : Rank :=
  nearest (rank.units * factor) 1

/-- The rank nearest to the product of two magnitudes. -/
def Rank.product (left right : Rank) : Rank :=
  nearest (left.units * right.units) unitsOfOne

/-- The rank nearest to the quotient of two magnitudes, of which the second is not zero. -/
def Rank.quotient (left right : Rank) : Rank :=
  nearest (left.units * unitsOfOne) right.units

/-- The whole number nearest to a magnitude, a half going up. -/
def Rank.toNat (rank : Rank) : Nat :=
  (2 * rank.units + unitsOfOne) / (2 * unitsOfOne)

/-- The rank nearest to `digits * 10 ^ exponent`.  Exponents far out of range are cut short. -/
def Rank.ofDecimal (digits : Nat) : Int → Rank
  | .ofNat power =>
    if digits = 0 then ofNat 0
    else if 400 < power then ofNat infinityRank
    else nearest (digits * Nat.pow 10 power * unitsOfOne) 1
  | .negSucc power =>
    if digits.log2 + 400 < power + 1 then ofNat 0
    else nearest (digits * unitsOfOne) (Nat.pow 10 (power + 1))

end Binary64

/-- A number of the 64-bit binary floating-point format. -/
inductive Binary64 where
  /-- Not a number. -/
  | nan
  /-- A magnitude with a sign; zero has both signs, and the highest rank is infinity. -/
  | signed (negative : Bool) (rank : Binary64.Rank)
  deriving DecidableEq

namespace Binary64

/-- Positive infinity. -/
def infinity : Binary64 :=
  signed false (Rank.ofNat infinityRank)

/-- Whether a number is infinite. -/
def isInfinite : Binary64 → Bool
  | nan => false
  | signed _ rank => rank.val == infinityRank

/-- The number nearest to an integer. -/
def ofInt (number : Int) : Binary64 :=
  signed (decide (number < 0)) (Rank.nearest (number.natAbs * unitsOfOne) 1)

/-- The place of a signed magnitude among the numbers; the two zeros share theirs. -/
def place (negative : Bool) (rank : Rank) : Int :=
  if negative then -(rank.val : Int) else rank.val

/-- The order of two numbers, unless one of them is not a number. -/
def compare? : Binary64 → Binary64 → Option Ordering
  | signed negative rank, signed negative' rank' =>
    some (compare (place negative rank) (place negative' rank'))
  | _, _ => none

end Binary64
end SqlEngine
