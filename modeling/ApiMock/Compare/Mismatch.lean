import ApiMock.Value.Text

/-!
# Mismatches between documents

Where two documents differ, and how. A place is the list of steps that leads to it from the root; it
is written like `$.a[3].b`.
-/

set_option autoImplicit false

namespace ApiMock

inductive Step where
  | member (name : String)
  | item (index : Nat)
deriving DecidableEq

def Step.text : Step → String
  | member name => "." ++ name
  | item index => "[" ++ toString index ++ "]"

abbrev Location := List Step

def Location.text (location : Location) : String :=
  "$" ++ String.join (location.map Step.text)

inductive Difference where
  | kinds (expected actual : Kind)
  | values (expected actual : Value)
  | malformedPattern
  | pattern (directive actual : String)
  | arrayLengths (expected actual : Nat)
  | mapLengths (expected actual : Nat)
  | missingKey (key : String)

namespace Difference

def title : Difference → String
  | kinds .. => "types do not match"
  | values .. => "values do not match"
  | malformedPattern => "can not compile regex"
  | pattern .. => "value does not match regex"
  | arrayLengths .. => "array lengths do not match"
  | mapLengths .. => "map lengths do not match"
  | missingKey _ => "key is missing"

def expectedText : Difference → String
  | kinds expected _ => expected.name
  | values expected _ => expected.reportText
  | malformedPattern => "<nil>"
  | pattern directive _ => directive
  | arrayLengths expected _ => toString expected
  | mapLengths expected _ => toString expected
  | missingKey key => key

def actualText : Difference → String
  | kinds _ actual => actual.name
  | values _ actual => actual.reportText
  | malformedPattern => "error"
  | pattern _ actual => actual
  | arrayLengths _ actual => toString actual
  | mapLengths _ actual => toString actual
  | missingKey _ => "<missing>"

/-- Whether only the values differ, and not the structure. -/
def isOfValues : Difference → Bool
  | values .. | malformedPattern | pattern .. => true
  | _ => false

end Difference

structure Mismatch where
  location : Location
  difference : Difference

def Mismatch.message (mismatch : Mismatch) : String :=
  "at path " ++ mismatch.location.text ++ " " ++ mismatch.difference.title ++ ":\n     expected: "
    ++ mismatch.difference.expectedText ++ "\n       actual: " ++ mismatch.difference.actualText

end ApiMock
