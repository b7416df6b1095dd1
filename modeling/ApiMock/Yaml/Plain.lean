import ApiMock.Number.Decimal
import ApiMock.Text.Percent
import ApiMock.Value.Basic
import ApiMock.Yaml.Fault

/-!
# Values of plain scalars

What a scalar without quotes stands for: null, a truth value, an integer in base ten or behind a
prefix in base two, eight or sixteen, a double, or else the text itself. Digits behind a leading
zero are a text.
-/

set_option autoImplicit false

namespace ApiMock.Yaml

def isNull (text : String) : Bool := ["null", "Null", "NULL", "~"].contains text

def bool? (text : String) : Option Bool :=
  if ["true", "True", "TRUE"].contains text then some true
  else if ["false", "False", "FALSE"].contains text then some false
  else none

def digits? (base : Nat) (digits : List Char) : Option Nat :=
  if digits.isEmpty then none
  else
    digits.foldl
      (fun value? c => do
        let value ← value?
        let digit ← hexDigit? c
        if digit < base then some (value * base + digit) else none)
      (some 0)

def prefixed? : List Char → Option Nat
  | '0' :: 'x' :: digits => digits? 16 digits
  | '0' :: 'o' :: digits => digits? 8 digits
  | '0' :: 'b' :: digits => digits? 2 digits
  | _ => none

def hasLeadingZero : List Char → Bool
  | '0' :: rest => !rest.isEmpty && rest.all Char.isDigit
  | _ => false

def unsignedDigits? (text : List Char) : Option Nat :=
  (prefixed? text).or (if hasLeadingZero text then none else digits? 10 text)

def natural? (text : String) : Option Nat :=
  match text.toList with
  | '+' :: rest => unsignedDigits? rest
  | characters => unsignedDigits? characters

def integer? (text : String) : Option Int :=
  match text.toList with
  | '-' :: rest => (unsignedDigits? rest).map fun value => -(value : Int)
  | _ => (natural? text).map Int.ofNat

def isNotFinite (text : String) : Bool :=
  [".inf", ".Inf", ".INF", "+.inf", "+.Inf", "+.INF", "-.inf", "-.Inf", "-.INF", ".nan", ".NaN",
   ".NAN"].contains text

/-- The value of a double. What is not finite counts as null. -/
def double? (text : String) : Option Value :=
  if isNotFinite text then some .null
  else (Double.ofText? text).map fun double => .number (.double double)

def integerValue? (text : String) : Except Fault (Option Value) :=
  match integer? text with
  | none => .ok none
  | some value =>
    match Number.ofInt? value with
    | some number => .ok (some (.number number))
    | none =>
      -- What fits two words but not one is a fault, and what does not fit them is a text.
      if -0x80000000000000000000000000000000 ≤ value ∧ value < 0x100000000000000000000000000000000
      then .error .integerOutOfRange
      else .ok none

def isDigitText (text : String) : Bool :=
  match text.toList with
  | '-' :: rest | '+' :: rest => hasLeadingZero rest
  | characters => hasLeadingZero characters

def plainValue (text : String) : Except Fault Value :=
  if text = "" ∨ isNull text then .ok .null
  else
    match bool? text, integerValue? text with
    | some b, _ => .ok (.bool b)
    | none, .error fault => .error fault
    | none, .ok (some value) => .ok value
    | none, .ok none =>
      .ok (if isDigitText text then .string text else (double? text).getD (.string text))

/-- The value of a scalar with a tag. Tags of no kind of value make it a text. -/
def taggedValue (tag text : String) : Except Fault Value :=
  let orFault (value? : Option Value) : Except Fault Value :=
    match value? with
    | some value => .ok value
    | none => .error (.valueNotOfTag tag)
  match tag with
  | "tag:yaml.org,2002:bool" => orFault ((bool? text).map .bool)
  | "tag:yaml.org,2002:int" => integerValue? text >>= orFault
  | "tag:yaml.org,2002:float" => orFault (double? text)
  | "tag:yaml.org,2002:null" => orFault (if isNull text then some .null else none)
  | _ => .ok (.string text)

end ApiMock.Yaml
