import ApiMock.Value.Basic

/-!
# Comparison options

What a comparison of two documents may overlook. Options are written as an object of flags or as a
list of the flags in the order of the fields.
-/

set_option autoImplicit false

namespace ApiMock

structure CompareOptions where
  ignoreValues : Bool := false
  ignoreArrayOrder : Bool := false
  /-- Demand that objects have as many members as expected. -/
  disallowExtraFields : Bool := false
deriving DecidableEq

namespace CompareOptions

def unorderedArrays : CompareOptions := { ignoreArrayOrder := true }

def names : List String := ["ignoreValues", "ignoreArraysOrdering", "disallowExtraFields"]

def set? (options : CompareOptions) (name : String) (flag : Bool) : Option CompareOptions :=
  match name with
  | "ignoreValues" => some { options with ignoreValues := flag }
  | "ignoreArraysOrdering" => some { options with ignoreArrayOrder := flag }
  | "disallowExtraFields" => some { options with disallowExtraFields := flag }
  | _ => none

def setAll? (options : CompareOptions) : List (String × Value) → Option CompareOptions
  | [] => some options
  | (name, value) :: rest =>
    (value.bool?.bind (options.set? name)).bind fun options => options.setAll? rest

/-- Reads options from an object with no other members, or from a list of at most three flags. -/
def ofValue? : Value → Option CompareOptions
  | .object members => ({} : CompareOptions).setAll? members
  | .array items =>
    if items.length ≤ 3 then ({} : CompareOptions).setAll? (names.zip items) else none
  | _ => none

end CompareOptions

end ApiMock
