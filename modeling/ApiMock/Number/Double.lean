/-!
# Double-precision numbers

Finite double-precision numbers as sign, significand and binary exponent, with arithmetic in exact
integers: rounding a quotient to the nearest double (a tie goes to the even significand), products
and quotients, and the numeric order.
-/

set_option autoImplicit false

namespace ApiMock

/-- The pairs of significand and exponent of finite doubles: 53 bits, the leading one set unless the
exponent is the least. Each magnitude has exactly one such pair. -/
def Double.Canonical (significand : Nat) (exponent : Int) : Prop :=
  significand < 0x20000000000000 ∧ -1074 ≤ exponent ∧ exponent ≤ 971 ∧
    (significand < 0x10000000000000 → exponent = -1074)

instance (significand : Nat) (exponent : Int) :
    Decidable (Double.Canonical significand exponent) :=
  inferInstanceAs (Decidable (_ ∧ _ ∧ _ ∧ (_ → _)))

structure Double where
  negative : Bool
  significand : Nat
  exponent : Int
  canonical : Double.Canonical significand exponent
deriving DecidableEq

namespace Double

def zero (negative : Bool) : Double := ⟨negative, 0, -1074, by decide⟩

instance : Inhabited Double := ⟨zero false⟩

def ofParts? (negative : Bool) (significand : Nat) (exponent : Int) : Option Double :=
  if canonical : Canonical significand exponent then
    some ⟨negative, significand, exponent, canonical⟩
  else none

def scaled (n : Nat) (e : Int) : Nat × Nat :=
  if 0 ≤ e then (n <<< e.toNat, 1) else (n, 1 <<< (-e).toNat)

/-- A quotient of positive integers rounded to the nearest integer, a tie to the even one. -/
def divideToEven (numerator denominator : Nat) : Nat :=
  let quotient := numerator / denominator
  let rest := 2 * (numerator % denominator)
  if rest < denominator then quotient
  else if denominator < rest then quotient + 1
  else quotient + quotient % 2

/-- The nearest double to `numerator / denominator`; none when it lies beyond the largest one. -/
def round (negative : Bool) (numerator denominator : Nat) : Option Double :=
  if numerator = 0 then some (zero negative)
  else
    let estimate : Int := (Nat.log2 numerator : Int) - Nat.log2 denominator - 53
    let least := max (-1074) estimate
    let fractionAt (e : Int) : Nat × Nat :=
      let (n, d) := scaled numerator (-e)
      (n, d * denominator)
    let exponent :=
      if (fractionAt least).1 / (fractionAt least).2 < 0x20000000000000 then least else least + 1
    let significand := divideToEven (fractionAt exponent).1 (fractionAt exponent).2
    if significand = 0x20000000000000 then ofParts? negative 0x10000000000000 (exponent + 1)
    else ofParts? negative significand exponent

def ofInt (value : Int) : Option Double :=
  round (value < 0) value.natAbs 1

def ofDecimal (negative : Bool) (coefficient : Nat) (exponent : Int) : Option Double :=
  if 0 ≤ exponent then round negative (coefficient * Nat.pow 10 exponent.toNat) 1
  else round negative coefficient (Nat.pow 10 (-exponent).toNat)

def mul (x y : Double) : Option Double :=
  let (n, d) := scaled (x.significand * y.significand) (x.exponent + y.exponent)
  round (x.negative != y.negative) n d

def div (x y : Double) : Option Double :=
  let (n, d) := scaled x.significand (x.exponent - y.exponent)
  round (x.negative != y.negative) n (d * y.significand)

/-- The number as a multiple of the least positive double, an exact integer. -/
def units (x : Double) : Int :=
  let magnitude : Nat := x.significand <<< (x.exponent + 1074).toNat
  if x.negative then -(magnitude : Int) else magnitude

/-- Equality of values: the two zeros are equal. -/
def eqv (x y : Double) : Bool := x.units == y.units

def lt (x y : Double) : Bool := x.units < y.units

def isNormal (x : Double) : Bool := 0x10000000000000 ≤ x.significand

end Double

end ApiMock
