import ApiMock.Number.Double

/-!
# Decimal texts of doubles
-/

set_option autoImplicit false

namespace ApiMock.Double

/-- Reads a decimal number, with sign, point and exponent as wanted, but with at least one digit. -/
def ofText? (text : String) : Option Double :=
  let (negative, unsigned) := match text.toList with
    | '-' :: rest => (true, rest)
    | '+' :: rest => (false, rest)
    | characters => (false, characters)
  let number (digits : List Char) : Nat :=
    digits.foldl (fun value c => value * 10 + (c.toNat - 0x30)) 0
  let whole := unsigned.takeWhile Char.isDigit
  let afterWhole := unsigned.dropWhile Char.isDigit
  let (fraction, afterFraction) := match afterWhole with
    | '.' :: rest => (rest.takeWhile Char.isDigit, rest.dropWhile Char.isDigit)
    | _ => ([], afterWhole)
  let exponent? : Option Int := match afterFraction with
    | [] => some 0
    | e :: rest =>
      let (minus, digits) := match rest with
        | '-' :: digits => (true, digits)
        | '+' :: digits => (false, digits)
        | digits => (false, digits)
      if (e = 'e' ∨ e = 'E') ∧ digits ≠ [] ∧ digits.all Char.isDigit then
        some (if minus then -(number digits : Int) else number digits)
      else none
  if whole.isEmpty && fraction.isEmpty then none
  else
    exponent?.bind fun exponent =>
      ofDecimal negative (number (whole ++ fraction)) (exponent - fraction.length)

end ApiMock.Double
