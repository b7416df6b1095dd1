import ApiMock.Text.Utf8

/-!
# Percent escapes

Decoding of `%41`-style escapes. A percent sign that two hexadecimal digits do not follow stands
for itself, so decoding never fails before the bytes are read as text.
-/

set_option autoImplicit false

namespace ApiMock

def hexDigit? (c : Char) : Option Nat :=
  if '0' ≤ c ∧ c ≤ '9' then some (c.toNat - 0x30)
  else if 'a' ≤ c ∧ c ≤ 'f' then some (c.toNat - 0x57)
  else if 'A' ≤ c ∧ c ≤ 'F' then some (c.toNat - 0x37)
  else none

namespace Percent

def escapedByte? (high low : Char) : Option UInt8 :=
  match hexDigit? high, hexDigit? low with
  | some a, some b => some (UInt8.ofNat (16 * a + b))
  | _, _ => none

def bytes : List Char → Bytes
  | [] => []
  | '%' :: high :: low :: rest =>
    match escapedByte? high low with
    | some byte => byte :: bytes rest
    | none => 0x25 :: bytes (high :: low :: rest)
  | c :: rest => String.utf8EncodeChar c ++ bytes rest

def decode? (text : String) : Option String :=
  Utf8.decode? (bytes text.toList)

/-- Decodes the escapes, or keeps the text as it is when its bytes are no UTF-8. -/
def decode (text : String) : String :=
  (decode? text).getD text

end Percent

end ApiMock
