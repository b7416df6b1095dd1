import ApiMock.Number.Shortest

/-!
# Decimal text of doubles

A layout says how the shortest decimal of a double is written down. Two are in use: canonical
strings never show an exponent nor a fraction that is not there, reports show both where the
magnitude asks for it.
-/

set_option autoImplicit false

namespace ApiMock

structure NumberLayout where
  tie : DecimalTie
  /-- The exponents of the leading digit that are written without an exponent part, as an interval;
  none if all are. -/
  positional : Option (Int × Int)
  pointZero : Bool

namespace NumberLayout

/-- The notation inside canonical strings: an integral double reads like the integer it equals. -/
def canonical : NumberLayout := ⟨.up, none, false⟩

def report : NumberLayout := ⟨.toEven, some (-5, 15), true⟩

private def digits (n : Nat) : List Char := Nat.toDigits 10 n

def writePositional (pointZero : Bool) (d : Decimal) : List Char :=
  let ds := digits d.coefficient
  if 0 ≤ d.exponent then
    ds ++ List.replicate d.exponent.toNat '0' ++ (if pointZero then ['.', '0'] else [])
  else
    let places := (-d.exponent).toNat
    if places < ds.length then
      ds.take (ds.length - places) ++ '.' :: ds.drop (ds.length - places)
    else '0' :: '.' :: (List.replicate (places - ds.length) '0' ++ ds)

def writeScientific (d : Decimal) (leading : Int) : List Char :=
  let mantissa := match digits d.coefficient with
    | first :: second :: rest => first :: '.' :: second :: rest
    | short => short
  let sign := if leading < 0 then '-' else '+'
  mantissa ++ 'e' :: sign :: digits leading.natAbs

def write (layout : NumberLayout) (x : Double) : String :=
  let body :=
    if x.significand = 0 then (if layout.pointZero then ['0', '.', '0'] else ['0'])
    else
      let d := Decimal.shortest layout.tie x
      let leading := d.exponent + (Decimal.digitCount d.coefficient : Int) - 1
      match layout.positional with
      | none => writePositional layout.pointZero d
      | some (least, greatest) =>
        if least ≤ leading ∧ leading ≤ greatest then writePositional layout.pointZero d
        else writeScientific d leading
  String.ofList (if x.negative then '-' :: body else body)

end NumberLayout

end ApiMock
