import ApiMock.Compare.Directive
import ApiMock.Pattern

/-!
# Matching lists of query values

Whether two lists of texts hold the same values in any order, where an expected text may be a
directive. The matching is greedy: the first expected text that some actual text satisfies is paired
with the first such text, both leave their lists, and the last text of each list takes the freed
place. So a pattern may take a text that a later literal would have needed.
-/

set_option autoImplicit false

namespace ApiMock

def valueTest (expected : String) : Except Pattern.Fault (String → Bool) :=
  match Directive.pattern? expected with
  | none => .ok (expected == ·)
  | some source =>
    match Pattern.compile source with
    | .ok pattern => .ok pattern.occursIn
    | .error fault => .error fault

/-- The positions of the first expected text that some actual text satisfies and of that text,
counting the expected texts from an index on. -/
def firstPair (actual : List String) :
    Nat → List String → Except Pattern.Fault (Option (Nat × Nat))
  | _, [] => .ok none
  | index, expected :: rest =>
    match valueTest expected with
    -- A malformed directive is a fault whatever the actual texts are.
    | .error fault => .error fault
    | .ok test =>
      match actual.findIdx? test with
      | some found => .ok (some (index, found))
      | none => firstPair actual (index + 1) rest

/-- A list without one of its items, whose place the last one takes. -/
def swapRemove {α : Type} (items : List α) (index : Nat) : List α :=
  match items.getLast? with
  | none => []
  | some last => (items.set index last).dropLast

/-- Pairs texts until none are expected or no pair is left, with a bound on the number of pairs. -/
def matchValues : Nat → List String → List String → Except Pattern.Fault Bool
  | _, [], _ => .ok true
  | 0, _, _ => .ok false
  | bound + 1, expected, actual =>
    match firstPair actual 0 expected with
    | .error fault => .error fault
    | .ok none => .ok false
    | .ok (some (i, j)) => matchValues bound (swapRemove expected i) (swapRemove actual j)

def compareQuery (expected actual : List String) : Except Pattern.Fault Bool :=
  if expected.length ≠ actual.length then .ok false
  else matchValues expected.length expected actual

end ApiMock
