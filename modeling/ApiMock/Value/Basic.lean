import ApiMock.Keyed
import ApiMock.Value.Number

/-!
# Decoded values

The value tree that JSON, YAML and XML documents are decoded into. The members of an object are a
keyed list: in ascending order of their names, each name once.
-/

set_option autoImplicit false

namespace ApiMock

inductive Value where
  | null
  | bool (value : Bool)
  | number (value : Number)
  | string (value : String)
  | array (items : List Value)
  | object (members : List (String × Value))

instance : Inhabited Value := ⟨.null⟩

inductive Kind where
  | null
  | bool
  | number
  | string
  | array
  | map
deriving DecidableEq

def Kind.name : Kind → String
  | null => "null"
  | bool => "bool"
  | number => "number"
  | string => "string"
  | array => "array"
  | map => "map"

namespace Value

def kind : Value → Kind
  | null => .null
  | bool _ => .bool
  | number _ => .number
  | string _ => .string
  | array _ => .array
  | object _ => .map

def member? (name : String) : Value → Option Value
  | object members => members.lookup name
  | _ => none

def string? : Value → Option String
  | string text => some text
  | _ => none

def bool? : Value → Option Bool
  | bool b => some b
  | _ => none

def nat? : Value → Option Nat
  | number n => n.toNat?
  | _ => none

mutual

/-- Identity of values, doubles by numeric value and never equal to an integer. -/
def same : Value → Value → Bool
  | null, null => true
  | bool a, bool b => a == b
  | number (.integer a _), number (.integer b _) => a == b
  | number (.double a), number (.double b) => a.eqv b
  | string a, string b => a == b
  | array a, array b => sameItems a b
  | object a, object b => sameMembers a b
  | _, _ => false

def sameItems : List Value → List Value → Bool
  | [], [] => true
  | a :: as, b :: bs => same a b && sameItems as bs
  | _, _ => false

def sameMembers : List (String × Value) → List (String × Value) → Bool
  | [], [] => true
  | (j, a) :: as, (k, b) :: bs => j == k && same a b && sameMembers as bs
  | _, _ => false

end

end Value

end ApiMock
