import ApiMock.Text.Case
import ApiMock.Text.Utf8

/-!
# Header fields

Header fields in the order in which their names first occur, the values of a name directly behind
each other. Names are kept in lower case, values as bytes.
-/

set_option autoImplicit false

namespace ApiMock

/-- Header fields, each a name in lower case and a value. -/
abbrev Headers := List (String × Bytes)

namespace Headers

def isNameChar (c : Char) : Bool :=
  c.isAlphanum || "!#$%&'*+-.^_\x60|~".toList.contains c

def maximalNameLength : Nat := 65535

def name? (name : String) : Option String :=
  if name ≠ "" ∧ name.length ≤ maximalNameLength ∧ name.toList.all isNameChar then
    some (Case.toAsciiLower name)
  else none

def isValueByte (byte : UInt8) : Bool := (32 ≤ byte && byte ≠ 127) || byte == 9

def value? (text : String) : Option Bytes :=
  let bytes := Utf8.encode text
  if bytes.all isValueByte then some bytes else none

/-- Puts a field behind the last one with its name, or at the end if there is none. -/
def append (name : String) (value : Bytes) : Headers → Headers
  | [] => [(name, value)]
  | (n, v) :: rest =>
    if n = name ∧ (rest.lookup name).isNone then (n, v) :: (name, value) :: rest
    else (n, v) :: append name value rest

def appendAll (headers : Headers) (fields : List (String × Bytes)) : Headers :=
  fields.foldl (fun headers field => headers.append field.1 field.2) headers

def text? (headers : Headers) (name : String) : Option String := do
  let name ← name? name
  let value ← headers.lookup name
  -- A value with a byte beyond ASCII is no text, even if it is UTF-8.
  if value.all fun byte => isValueByte byte && byte < 127 then Utf8.decode? value else none

def names (headers : Headers) : List String := (headers.map Prod.fst).eraseDups

def lines (headers : Headers) : String :=
  String.join (headers.map fun (name, value) => name ++ ": " ++ Utf8.decodeLossy value ++ "\r\n")

end Headers

end ApiMock
