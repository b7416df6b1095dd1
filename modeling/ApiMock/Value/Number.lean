import ApiMock.Number.Layout

/-!
# Numbers in decoded values

A number is an integer that fits a signed or an unsigned 64-bit word, or a finite double. The two
forms are told apart in every text that is written, and compared by value.
-/

set_option autoImplicit false

namespace ApiMock

def Number.FitsWord (value : Int) : Prop :=
  -0x8000000000000000 ≤ value ∧ value < 0x10000000000000000

instance (value : Int) : Decidable (Number.FitsWord value) :=
  inferInstanceAs (Decidable (_ ∧ _))

inductive Number where
  | integer (value : Int) (fits : Number.FitsWord value)
  | double (value : Double)
deriving DecidableEq

namespace Number

def ofInt? (value : Int) : Option Number :=
  if fits : FitsWord value then some (integer value fits) else none

def ofNat (value : Nat) : Number :=
  (ofInt? value).getD (double (Double.zero false))

def toNat? : Number → Option Nat
  | integer value _ => if 0 ≤ value then some value.toNat else none
  | double _ => none

def toDouble? : Number → Option Double
  | integer value _ => Double.ofInt value
  | double value => some value

def units : Number → Int
  | integer value _ => value * ((1 <<< 1074 : Nat) : Int)
  | double value => value.units

/-- Equality by value: integers compare exactly, and as soon as a double is involved both sides are
compared as doubles. -/
def eqv : Number → Number → Bool
  | integer x _, integer y _ => x == y
  | x, y =>
    match x.toDouble?, y.toDouble? with
    | some a, some b => a.eqv b
    | _, _ => false

def canonical : Number → String
  | integer value _ => toString value
  | double value => NumberLayout.canonical.write value

def text : Number → String
  | integer value _ => toString value
  | double value => NumberLayout.report.write value

end Number

end ApiMock
