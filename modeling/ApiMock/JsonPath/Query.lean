import ApiMock.Pattern
import ApiMock.Value.Basic

/-!
# JSONPath queries

A query selects nodes of a document: segments one behind the other, each with selectors that go
from a node to some of its children, or to children of the node and of all nodes below it. Filters
compare what queries find. Nodes come in the order of the document, and those of several selectors
in the order of the selectors.
-/

set_option autoImplicit false

namespace ApiMock.JsonPath

inductive Comparator where
  | equal
  | notEqual
  | less
  | lessOrEqual
  | greater
  | greaterOrEqual
deriving DecidableEq

mutual

structure Query where
  fromRoot : Bool
  segments : List Segment

inductive Segment where
  | child (selectors : List Selector)
  | descendant (selectors : List Selector)

inductive Selector where
  | name (name : String)
  | wildcard
  | index (index : Int)
  | slice (first last : Option Int) (step : Int)
  | filter (condition : Condition)

inductive Condition where
  | any (left right : Condition)
  | all (left right : Condition)
  | not (condition : Condition)
  | exist (query : Query)
  | compare (left : Term) (comparator : Comparator) (right : Term)
  | matching (whole : Bool) (text pattern : Term)

inductive Term where
  | literal (value : Value)
  | first (query : Query)
  | length (term : Term)
  | count (query : Query)
  | only (query : Query)

end

/-! ## Comparing what was found -/

/-- Equality of what was found. Nothing equals nothing, and numbers are compared as doubles. -/
def equalFound : Option Value → Option Value → Bool
  | none, none => true
  | some (.number a), some (.number b) =>
    match a.toDouble?, b.toDouble? with
    | some x, some y => x.eqv y
    | _, _ => false
  | some a, some b => a.same b
  | _, _ => false

def lessFound : Option Value → Option Value → Bool
  | some (.number a), some (.number b) =>
    match a.toDouble?, b.toDouble? with
    | some x, some y => x.lt y
    | _, _ => false
  | some (.string a), some (.string b) => a < b
  | _, _ => false

def sameKindFound : Option Value → Option Value → Bool
  | some a, some b => a.kind == b.kind
  | _, _ => false

/-- Whether a comparison holds. What is greater is of the same kind and neither less nor equal, so
that of two different objects each is greater than the other. -/
def Comparator.holds (left right : Option Value) : Comparator → Bool
  | equal => equalFound left right
  | notEqual => !equalFound left right
  | less => lessFound left right
  | lessOrEqual => lessFound left right || equalFound left right
  | greater => sameKindFound left right && !lessFound left right && !equalFound left right
  | greaterOrEqual => sameKindFound left right && !lessFound left right || equalFound left right

def lengthFound : Option Value → Option Value
  | some (.string text) => some (.number (Number.ofNat text.length))
  | some (.array items) => some (.number (Number.ofNat items.length))
  | some (.object members) => some (.number (Number.ofNat members.length))
  | _ => none

/-- Whether a text matches a pattern. What is no text or no pattern does not match. To match as a
whole, the pattern is written between anchors. -/
def matchFound (whole : Bool) (text pattern : Option Value) : Bool :=
  match text, pattern with
  | some (.string text), some (.string source) =>
    match Pattern.compile (if whole then "^(" ++ source ++ ")$" else source) with
    | .ok pattern => pattern.occursIn text
    | .error _ => false
  | _, _ => false

/-! ## Single nodes -/

def Query.isSingular (query : Query) : Bool :=
  query.segments.all fun
    | .child [.name _] | .child [.index _] => true
    | _ => false

def Query.takesFromEnd (query : Query) : Bool :=
  query.isSingular && query.segments.any fun
    | .child [.index index] => index < 0
    | _ => false

/-! ## Nodes -/

def children : Value → List Value
  | .array items => items
  | .object members => members.map Prod.snd
  | _ => []

mutual

def withDescendants : Value → List Value
  | .array items => .array items :: itemDescendants items
  | .object members => .object members :: memberDescendants members
  | value => [value]

def itemDescendants : List Value → List Value
  | [] => []
  | item :: rest => withDescendants item ++ itemDescendants rest

def memberDescendants : List (String × Value) → List Value
  | [] => []
  | (_, value) :: rest => withDescendants value ++ memberDescendants rest

end

def itemAt? (items : List Value) (index : Int) : Option Value :=
  let position := if index < 0 then index + items.length else index
  if position < 0 then none else items[position.toNat]?

/-- The items of a slice. A negative step goes backwards, and a step of zero goes nowhere. -/
def sliceOf (items : List Value) (first last : Option Int) (step : Int) : List Value :=
  let size : Int := items.length
  let normal (bound : Int) : Int := if bound < 0 then bound + size else bound
  if 0 < step then
    let lower := min (max (normal (first.getD 0)) 0) size
    let upper := min (max (normal (last.getD size)) 0) size
    (List.range items.length).filterMap fun (i : Nat) =>
      if lower ≤ (i : Int) ∧ (i : Int) < upper ∧ ((i : Int) - lower) % step = 0 then items[i]?
      else none
  else if step < 0 then
    let upper := min (max (normal (first.getD (size - 1))) (-1)) (size - 1)
    let lower := match last with
      | some bound => min (max (normal bound) (-1)) (size - 1)
      | none => -1
    (List.range items.length).reverse.filterMap fun (i : Nat) =>
      if lower < (i : Int) ∧ (i : Int) ≤ upper ∧ (upper - (i : Int)) % (-step) = 0 then items[i]?
      else none
  else []

mutual

def Query.nodes (root current : Value) : Query → List Value
  | ⟨fromRoot, segments⟩ => segmentsNodes root segments [if fromRoot then root else current]

def segmentsNodes (root : Value) : List Segment → List Value → List Value
  | [], nodes => nodes
  | segment :: rest, nodes =>
    segmentsNodes root rest (nodes.flatMap fun node => segment.nodes root node)

def Segment.nodes (root node : Value) : Segment → List Value
  | .child selectors => selectorsNodes root node selectors
  | .descendant selectors =>
    (withDescendants node).flatMap fun node => selectorsNodes root node selectors

def selectorsNodes (root node : Value) : List Selector → List Value
  | [] => []
  | selector :: rest => selector.nodes root node ++ selectorsNodes root node rest

def Selector.nodes (root node : Value) : Selector → List Value
  | .name name => (node.member? name).toList
  | .wildcard => children node
  | .index index =>
    match node with
    | .array items => (itemAt? items index).toList
    | _ => []
  | .slice first last step =>
    match node with
    | .array items => sliceOf items first last step
    | _ => []
  | .filter condition => (children node).filter fun child => condition.holds root child

def Condition.holds (root node : Value) : Condition → Bool
  | .any left right => left.holds root node || right.holds root node
  | .all left right => left.holds root node && right.holds root node
  | .not condition => !condition.holds root node
  | .exist query => !(query.nodes root node).isEmpty
  | .compare left comparator right =>
    comparator.holds (left.find root node) (right.find root node)
  | .matching whole text pattern =>
    matchFound whole (text.find root node) (pattern.find root node)

/-- The value of a term at a node. In a term, a query for at most one node counts from the front
only. -/
def Term.find (root node : Value) : Term → Option Value
  | .literal value => some value
  | .first query => if query.takesFromEnd then none else (query.nodes root node).head?
  | .length term => lengthFound (term.find root node)
  | .count query =>
    some (.number (Number.ofNat
      (if query.takesFromEnd then 0 else (query.nodes root node).length)))
  | .only query =>
    match query.takesFromEnd, query.nodes root node with
    | false, [value] => some value
    | _, _ => none

end

def Query.first? (query : Query) (document : Value) : Option Value :=
  (query.nodes document document).head?

end ApiMock.JsonPath
