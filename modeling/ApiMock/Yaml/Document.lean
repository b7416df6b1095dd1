import ApiMock.Yaml.Node
import ApiMock.Yaml.Plain

/-!
# Values of YAML documents

A document is a tree of nodes with its anchors. Aliases are resolved where they are read; how deeply
a document is nested and how often parts of it are repeated is bounded. Keys of mappings are texts,
and of several entries with one key the last one counts.
-/

set_option autoImplicit false

namespace ApiMock.Yaml

mutual

def Node.anchored : Node → List (Nat × Node)
  | .alias _ => []
  | .scalar properties style text =>
    (properties.anchor.map fun number => (number, .scalar properties style text)).toList
  | .sequence properties items =>
    (properties.anchor.map fun number => (number, .sequence properties items)).toList
      ++ anchoredItems items
  | .mapping properties entries =>
    (properties.anchor.map fun number => (number, .mapping properties entries)).toList
      ++ anchoredEntries entries

def anchoredItems : List Node → List (Nat × Node)
  | [] => []
  | item :: rest => item.anchored ++ anchoredItems rest

def anchoredEntries : List (Node × Node) → List (Nat × Node)
  | [] => []
  | (key, value) :: rest => key.anchored ++ value.anchored ++ anchoredEntries rest

end

mutual

/-- The size of a document: one for a scalar or an alias, two for a collection beside what is in
it. -/
def Node.size : Node → Nat
  | .alias _ => 1
  | .scalar .. => 1
  | .sequence _ items => 2 + itemsSize items
  | .mapping _ entries => 2 + entriesSize entries

def itemsSize : List Node → Nat
  | [] => 0
  | item :: rest => item.size + itemsSize rest

def entriesSize : List (Node × Node) → Nat
  | [] => 0
  | (key, value) :: rest => key.size + value.size + entriesSize rest

end

/-- A document: its root and the nodes with an anchor, the last one of a number first. -/
structure Document where
  root : Node
  anchored : List (Nat × Node)

namespace Document

def ofNode (root : Node) : Document := ⟨root, root.anchored.reverse⟩

def maximalJumps (document : Document) : Nat := 100 * document.root.size

def maximalDepth : Nat := 128

def resolve (document : Document) (jumps : Nat) : Node → Except Fault (Node × Nat)
  | .alias number =>
    if document.maximalJumps ≤ jumps then .error .tooManyAliases
    else
      match document.anchored.lookup number with
      | some node => .ok (node, jumps + 1)
      | none => .error (.unknownAnchor (toString number))
  | node => .ok (node, jumps)

def text (document : Document) (jumps : Nat) (node : Node) : Except Fault (String × Nat) := do
  match ← document.resolve jumps node with
  | (.scalar _ _ text, jumps) => return (text, jumps)
  | _ => throw .keyNotScalar

def unknownTag? (tag : Option String) : Option String :=
  tag.filter fun name => name.toList.head? = some '!'

def scalarValue (tag : Option String) (style : Style) (text : String) : Except Fault Value :=
  match unknownTag? tag, tag with
  | some name, _ => .error (.unknownTag name)
  | none, some name => taggedValue name text
  | none, none => if style = .plain then plainValue text else .ok (.string text)

def value (document : Document) : Nat → Nat → Node → Except Fault (Value × Nat)
  | depth, jumps, node => do
    match ← document.resolve jumps node, depth with
    | (.alias _, _), _ => throw .unexpectedToken
    | (.scalar properties style text, jumps), _ =>
      return (← scalarValue properties.tag style text, jumps)
    | (.sequence properties items, jumps), depth =>
      if let some name := unknownTag? properties.tag then throw (.unknownTag name)
      match depth with
      | 0 => throw .tooDeep
      | depth + 1 =>
        let (values, jumps) ← items.foldlM
          (fun (done : List Value × Nat) item => do
            let (value, jumps) ← value document depth done.2 item
            return (value :: done.1, jumps))
          ([], jumps)
        return (.array values.reverse, jumps)
    | (.mapping properties entries, jumps), depth =>
      if let some name := unknownTag? properties.tag then throw (.unknownTag name)
      match depth with
      | 0 => throw .tooDeep
      | depth + 1 =>
        let (members, jumps) ← entries.foldlM
          (fun (done : List (String × Value) × Nat) entry => do
            let (key, jumps) ← document.text done.2 entry.1
            let (value, jumps) ← value document depth jumps entry.2
            return (Keyed.insert key value done.1, jumps))
          ([], jumps)
        return (.object members, jumps)

end Document

def read (source : String) : Except Fault Value := do
  match ← readDocument source with
  | none => return .null
  | some node =>
    let document := Document.ofNode node
    return (← document.value Document.maximalDepth 0 document.root).1

end ApiMock.Yaml
