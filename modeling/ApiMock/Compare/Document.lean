import ApiMock.Compare.Canonical
import ApiMock.Compare.Directive
import ApiMock.Compare.Mismatch
import ApiMock.Compare.Options
import ApiMock.Pattern

/-!
# Comparing documents

The differences between an expected and an actual document, each at its place, in depth-first order.
The descent follows the expected document: it stops where kinds or lengths differ, and an expected
string that is a directive asks for a match of its pattern. Where the order of arrays does not
matter, both arrays are sorted by canonical strings first, and indices count in the sorted arrays.
-/

set_option autoImplicit false

namespace ApiMock

def scalarDifference? (expected actual : Value) : Option Difference :=
  let directive? := match expected, actual with
    | .string directive, .string text =>
      (Directive.pattern? directive).map fun source => (directive, source, text)
    | _, _ => none
  match directive? with
  | some (directive, source, text) =>
    match Pattern.compile source with
    | .error _ => some .malformedPattern
    | .ok pattern => if pattern.occursIn text then none else some (.pattern directive text)
  | none =>
    let equal := match expected, actual with
      | .number e, .number a => e.eqv a
      | _, _ => expected.same actual
    if equal then none else some (.values expected actual)

abbrev Comparison := Location → Value → List Mismatch

def compareItems (location : Location) : Nat → List Comparison → List Value → List Mismatch
  | index, comparison :: comparisons, actual :: rest =>
    comparison (location ++ [.item index]) actual ++
      compareItems location (index + 1) comparisons rest
  | _, _, _ => []

mutual

def compareAt (options : CompareOptions) : Value → Comparison
  | .array items => fun location actual =>
    match actual with
    | .array actualItems =>
      if items.length ≠ actualItems.length then
        [⟨location, .arrayLengths items.length actualItems.length⟩]
      else if options.ignoreArrayOrder then
        compareItems location 0 (Value.sortLabelled (itemComparisons options items))
          (Value.sortByCanonical actualItems)
      else
        compareItems location 0 ((itemComparisons options items).map Prod.snd) actualItems
    | _ => [⟨location, .kinds .array actual.kind⟩]
  | .object members => fun location actual =>
    match actual with
    | .object actualMembers =>
      if options.disallowExtraFields ∧ members.length ≠ actualMembers.length then
        [⟨location, .mapLengths members.length actualMembers.length⟩]
      else compareMembers options members location actualMembers
    | _ => [⟨location, .kinds .map actual.kind⟩]
  | expected => fun location actual =>
    if expected.kind ≠ actual.kind then [⟨location, .kinds expected.kind actual.kind⟩]
    else if options.ignoreValues then []
    else ((scalarDifference? expected actual).map (Mismatch.mk location)).toList

/-- The comparisons with the items of an array, labelled by the canonical strings of the items. -/
def itemComparisons (options : CompareOptions) : List Value → List (String × Comparison)
  | [] => []
  | item :: rest => (item.canonical, compareAt options item) :: itemComparisons options rest

def compareMembers (options : CompareOptions) :
    List (String × Value) → Location → List (String × Value) → List Mismatch
  | [], _, _ => []
  | (name, expected) :: rest, location, actualMembers =>
    (match actualMembers.lookup name with
      | none => [⟨location, .missingKey name⟩]
      | some actual => compareAt options expected (location ++ [.member name]) actual) ++
      compareMembers options rest location actualMembers

end

def compare (options : CompareOptions) (expected actual : Value) : List Mismatch :=
  compareAt options expected [] actual

end ApiMock
