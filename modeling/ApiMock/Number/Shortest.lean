import ApiMock.Number.Double

/-!
# Shortest decimals

The decimal with the fewest digits that reads back as a given double, and of those the nearest to
it. All arithmetic is exact: the double and the interval of numbers that round to it are integers in
a common unit, and so is the decimal grid of each length.
-/

set_option autoImplicit false

namespace ApiMock

inductive DecimalTie where
  | up
  | toEven
deriving DecidableEq

structure Decimal where
  coefficient : Nat
  exponent : Int
deriving DecidableEq

namespace Decimal

def digitCount (n : Nat) : Nat := (Nat.toDigits 10 n).length

def leadingExponent (numerator denominator : Nat) : Int :=
  if denominator ≤ numerator then (digitCount (numerator / denominator) : Int) - 1
  else -(digitCount ((denominator + numerator - 1) / numerator - 1) : Int)

def trim (coefficient : Nat) (exponent : Int) : Nat → Decimal
  | 0 => ⟨coefficient, exponent⟩
  | fuel + 1 =>
    if coefficient % 10 = 0 then trim (coefficient / 10) (exponent + 1) fuel
    else ⟨coefficient, exponent⟩

structure Interval where
  value : Nat
  low : Nat
  high : Nat
  closed : Bool

namespace Interval

def contains (i : Interval) (x : Nat) : Bool :=
  if i.closed then decide (i.low ≤ x ∧ x ≤ i.high) else decide (i.low < x ∧ x < i.high)

/-- The multiple of a grid step that lies in the interval and is nearest to the value: of the two
neighbours of the value, those inside, and of two the nearer. -/
def nearest? (i : Interval) (tie : DecimalTie) (step : Nat) : Option Nat :=
  let below := i.value / step
  match i.contains (below * step), i.contains ((below + 1) * step) with
  | false, false => none
  | true, false => some below
  | false, true => some (below + 1)
  | true, true =>
    let down := i.value - below * step
    let up := (below + 1) * step - i.value
    if down < up then some below
    else if up < down then some (below + 1)
    else match tie with
      | .up => some (below + 1)
      | .toEven => some (below + below % 2)

end Interval

/-- The shortest decimal of a double other than zero. Seventeen digits always suffice. -/
def shortest (tie : DecimalTie) (x : Double) : Decimal :=
  -- quarters of a unit in the last place, so that the bounds are integers
  let quarter := x.exponent - 2
  let below := if x.significand = 0x10000000000000 ∧ -1074 < x.exponent then 1 else 2
  let (numerator, denominator) := Double.scaled (4 * x.significand) quarter
  let top := leadingExponent numerator denominator
  let gridAt (digits : Nat) : Option Decimal :=
    let exponent := top - (digits : Int) + 1
    let ten := Nat.pow 10 exponent.natAbs
    let unit := (if exponent < 0 then ten else 1) <<< quarter.toNat
    let step := (if exponent < 0 then 1 else ten) <<< (-quarter).toNat
    let interval : Interval :=
      { value := 4 * x.significand * unit
        low := (4 * x.significand - below) * unit
        high := (4 * x.significand + 2) * unit
        closed := x.significand % 2 = 0 }
    (interval.nearest? tie step).map fun multiple => trim multiple exponent 20
  ((List.range 17).findSome? fun n => gridAt (n + 1)).getD ⟨0, 0⟩

end Decimal

end ApiMock
