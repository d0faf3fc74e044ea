import Reimport.Text.Decimal

/-!
# Binary floating-point numbers

A number with a point or an exponent is read as the nearest number of the 64-bit
binary format: a significand of at most 53 bits times a power of two.  Reading
rounds once, exactly and to an even significand in a tie, so whether a number is
whole can be told from what it has become.
-/
namespace Reimport

/-- A number of the 64-bit binary format. -/
inductive Binary64 where
  /-- The significand times two to the exponent. -/
  | finite (negative : Bool) (significand : Nat) (exponent : Int)
  /-- A number beyond all finite ones. -/
  | infinite (negative : Bool)
  /-- No number at all. -/
  | nan
  deriving DecidableEq, Repr

namespace Binary64

/-- The exponent of the smallest numbers. -/
def leastExponent : Int := -1074

/-- The exponent of the largest numbers. -/
def greatestExponent : Int := 971

/-- The quotient rounded to the nearest whole number, to an even one in a tie. -/
def roundedQuotient (numerator denominator : Nat) : Nat :=
  let quotient := numerator / denominator
  let twice := 2 * (numerator % denominator)
  if twice < denominator then quotient
  else if denominator < twice then quotient + 1
  else quotient + quotient % 2

/-- The quotient of a number and a power of two, as numerator and denominator. -/
def scaled (numerator denominator : Nat) (exponent : Int) : Nat × Nat :=
  if 0 ≤ exponent then (numerator, denominator * Nat.pow 2 exponent.toNat)
  else (numerator * Nat.pow 2 (-exponent).toNat, denominator)

/-- The exponent of the largest power of two that a positive quotient reaches. -/
def order (numerator denominator : Nat) : Int :=
  let guess : Int := numerator.log2 - denominator.log2
  let (n, d) := scaled numerator denominator guess
  if d ≤ n then guess else guess - 1

/-- The number nearest to a positive quotient. -/
def ofQuotient (negative : Bool) (numerator denominator : Nat) : Binary64 :=
  let exponent := max (order numerator denominator - 52) leastExponent
  let (n, d) := scaled numerator denominator exponent
  let significand := roundedQuotient n d
  let (significand, exponent) :=
    if significand = Nat.pow 2 53 then (Nat.pow 2 52, exponent + 1) else (significand, exponent)
  if exponent > greatestExponent then .infinite negative
  else .finite negative significand exponent

/-- The number nearest to `digits` times ten to the exponent.  Whatever has more
than 310 digits before the point is infinite, and nothing is left of what begins
330 places after it. -/
def ofDecimal (negative : Bool) (digits : Nat) (exponent : Int) : Binary64 :=
  let places : Int := (Text.decimalNat digits).length + exponent
  if digits = 0 || places < -330 then .finite negative 0 leastExponent
  else if places > 310 then .infinite negative
  else if 0 ≤ exponent then ofQuotient negative (digits * Nat.pow 10 exponent.toNat) 1
  else ofQuotient negative digits (Nat.pow 10 (-exponent).toNat)

/-- Whether a number is zero. -/
def isZero : Binary64 → Bool
  | .finite _ significand _ => significand = 0
  | .infinite _ | .nan => false

/-- Whether a number is finite. -/
def isFinite : Binary64 → Bool
  | .finite _ _ _ => true
  | .infinite _ | .nan => false

/-- The integer that a number is, if it is one. -/
def whole? : Binary64 → Option Int
  | .finite negative significand exponent =>
    let (n, d) := scaled significand 1 (-exponent)
    if n % d = 0 then some (if negative then -(n / d : Nat) else (n / d : Nat)) else none
  | .infinite _ | .nan => none

end Binary64
end Reimport
