import ApiMock.Yaml.Lexer

/-!
# Nodes of YAML documents

The tree of a document: scalars, sequences and mappings, with aliases for nodes that have an anchor.
Anchors are numbered by how many names of anchors there were before.
-/

set_option autoImplicit false

namespace ApiMock.Yaml

structure Properties where
  anchor : Option Nat := none
  tag : Option String := none

inductive Node where
  | alias (number : Nat)
  | scalar (properties : Properties) (style : Style) (text : String)
  | sequence (properties : Properties) (items : List Node)
  | mapping (properties : Properties) (entries : List (Node × Node))

def Node.empty (properties : Properties) : Node := .scalar properties .plain ""

/-- The tokens that are left, the numbers of anchors by their names, and the stems of tags by their
handles. -/
structure NodeReader where
  tokens : List Token
  anchors : List (String × Nat) := []
  handles : List (String × String) := []

namespace NodeReader

def head? (reader : NodeReader) : Option Token := reader.tokens.head?

def next (reader : NodeReader) : NodeReader := { reader with tokens := reader.tokens.tail }

def isAt (reader : NodeReader) (tokens : List Token) : Bool :=
  (reader.head?.map fun token => tokens.contains token).getD false

def expect (reader : NodeReader) (token : Token) : Except Fault NodeReader :=
  if reader.isAt [token] then .ok reader.next else .error .unexpectedToken

def readAnchor (reader : NodeReader) : Option Nat × NodeReader :=
  match reader.head? with
  | some (.anchor name) =>
    let number := reader.anchors.length
    let anchors := (name, number) :: reader.anchors.filter fun entry => entry.1 ≠ name
    (some number, { reader.next with anchors })
  | _ => (none, reader)

def readTag (reader : NodeReader) : Except Fault (Option String × NodeReader) :=
  match reader.head? with
  | some (.tag "" suffix) => .ok (some suffix, reader.next)
  | some (.tag handle suffix) =>
    match reader.handles.lookup handle with
    | some stem => .ok (some (stem ++ suffix), reader.next)
    | none => .error (.undefinedTagHandle handle)
  | _ => .ok (none, reader)

def readProperties (reader : NodeReader) : Except Fault (Properties × NodeReader) := do
  match reader.readAnchor with
  | (some anchor, reader) =>
    let (tag, reader) ← reader.readTag
    return ({ anchor := some anchor, tag }, reader)
  | (none, reader) =>
    let (tag, reader) ← reader.readTag
    if tag.isNone then return ({}, reader)
    let (anchor, reader) := reader.readAnchor
    return ({ anchor, tag }, reader)

def scalarTag (tag : Option String) : Option String :=
  -- A mark without a name leaves it open what the scalar is.
  tag.filter fun name => name ≠ "!" && name ≠ ""

mutual

/-- Reads a node. In brackets there are no blocks; behind a key, entries of a sequence need not be
indented. -/
def readNode (inBlock behindKey : Bool) :
    Nat → NodeReader → Except Fault (Node × NodeReader)
  | 0, _ => .error .tooDeep
  | fuel + 1, reader => do
    match reader.head? with
    | some (.alias name) =>
      match reader.anchors.lookup name with
      | some number => return (.alias number, reader.next)
      | none => throw (.unknownAnchor name)
    | _ =>
      let (properties, reader) ← reader.readProperties
      match reader.head? with
      | some (.scalar style text) =>
        let properties := { properties with tag := scalarTag properties.tag }
        return (.scalar properties style text, reader.next)
      | some .flowSequence =>
        let (items, reader) ← readFlowItems fuel true reader.next
        return (.sequence properties items, reader)
      | some .flowMapping =>
        let (entries, reader) ← readFlowEntries fuel true reader.next
        return (.mapping properties entries, reader)
      | some .entry =>
        if !behindKey then throw .unexpectedToken
        let (items, reader) ← readLooseItems fuel reader
        return (.sequence properties items, reader)
      | some .blockSequence =>
        if !inBlock then throw .unexpectedToken
        let (items, reader) ← readBlockItems fuel reader.next
        return (.sequence properties items, reader)
      | some .blockMapping =>
        if !inBlock then throw .unexpectedToken
        let (entries, reader) ← readBlockEntries fuel reader.next
        return (.mapping properties entries, reader)
      | _ =>
        if properties.anchor.isSome || properties.tag.isSome then
          return (.empty properties, reader)
        else throw .unexpectedToken

def readNodeOr (inBlock behindKey : Bool) (ends : List Token) :
    Nat → NodeReader → Except Fault (Node × NodeReader)
  | 0, _ => .error .tooDeep
  | fuel + 1, reader =>
    if reader.isAt ends then .ok (.empty {}, reader)
    else readNode inBlock behindKey fuel reader

def readBlockItems : Nat → NodeReader → Except Fault (List Node × NodeReader)
  | 0, _ => .error .tooDeep
  | fuel + 1, reader => do
    match reader.head? with
    | some .entry =>
      let (item, reader) ← readNodeOr true false [.entry, .blockEnd] fuel reader.next
      let (items, reader) ← readBlockItems fuel reader
      return (item :: items, reader)
    | some .blockEnd => return ([], reader.next)
    | _ => throw .unexpectedToken

def readLooseItems : Nat → NodeReader → Except Fault (List Node × NodeReader)
  | 0, _ => .error .tooDeep
  | fuel + 1, reader => do
    match reader.head? with
    | some .entry =>
      let (item, reader) ←
        readNodeOr true false [.entry, .key, .value, .blockEnd] fuel reader.next
      let (items, reader) ← readLooseItems fuel reader
      return (item :: items, reader)
    | _ => return ([], reader)

def readBlockEntries : Nat → NodeReader → Except Fault (List (Node × Node) × NodeReader)
  | 0, _ => .error .tooDeep
  | fuel + 1, reader => do
    match reader.head? with
    | some .key =>
      let ends : List Token := [.key, .value, .blockEnd]
      let (key, reader) ← readNodeOr true true ends fuel reader.next
      let (value, reader) ←
        if reader.isAt [.value] then readNodeOr true true ends fuel reader.next
        else pure (Node.empty {}, reader)
      let (entries, reader) ← readBlockEntries fuel reader
      return ((key, value) :: entries, reader)
    | some .blockEnd => return ([], reader.next)
    | _ => throw .unexpectedToken

def readFlowItems : Nat → Bool → NodeReader → Except Fault (List Node × NodeReader)
  | 0, _, _ => .error .tooDeep
  | fuel + 1, isFirst, reader => do
    if reader.isAt [.flowSequenceEnd] then return ([], reader.next)
    let reader ← if isFirst then pure reader else reader.expect .separator
    match reader.head? with
    | some .flowSequenceEnd => return ([], reader.next)
    -- An item with a colon is a mapping of one entry.
    | some .key =>
      let (entry, reader) ← readFlowPair fuel reader.next
      let (items, reader) ← readFlowItems fuel false reader
      return (.mapping {} [entry] :: items, reader)
    | _ =>
      let (item, reader) ← readNode false false fuel reader
      let (items, reader) ← readFlowItems fuel false reader
      return (item :: items, reader)

def readFlowPair : Nat → NodeReader → Except Fault ((Node × Node) × NodeReader)
  | 0, _ => .error .tooDeep
  | fuel + 1, reader => do
    -- A missing key swallows the token that shows that it is missing.
    let (key, reader) ←
      if reader.isAt [.value, .separator, .flowSequenceEnd] then pure (Node.empty {}, reader.next)
      else readNode false false fuel reader
    let (value, reader) ←
      if reader.isAt [.value] then
        readNodeOr false false [.separator, .flowSequenceEnd] fuel reader.next
      else pure (Node.empty {}, reader)
    return ((key, value), reader)

def readFlowEntries : Nat → Bool → NodeReader →
    Except Fault (List (Node × Node) × NodeReader)
  | 0, _, _ => .error .tooDeep
  | fuel + 1, isFirst, reader => do
    if reader.isAt [.flowMappingEnd] then return ([], reader.next)
    let reader ← if isFirst then pure reader else reader.expect .separator
    let ends : List Token := [.separator, .flowMappingEnd]
    match reader.head? with
    | some .flowMappingEnd => return ([], reader.next)
    | some .key =>
      let (key, reader) ← readNodeOr false false (.value :: ends) fuel reader.next
      let (value, reader) ←
        if reader.isAt [.value] then readNodeOr false false ends fuel reader.next
        else pure (Node.empty {}, reader)
      let (entries, reader) ← readFlowEntries fuel false reader
      return ((key, value) :: entries, reader)
    | _ =>
      let (key, reader) ← readNode false false fuel reader
      let (entries, reader) ← readFlowEntries fuel false reader
      return ((key, .empty {}) :: entries, reader)

end

def defaultHandles : List (String × String) := [("!", "!"), ("!!", "tag:yaml.org,2002:")]

def readDirectives : Bool → List (String × String) → List Token →
    Except Fault (List (String × String) × List Token)
  | hasVersion, handles, .version major minor :: rest =>
    if hasVersion then .error .duplicateDirective
    else if major ≠ 1 ∨ (minor ≠ 1 ∧ minor ≠ 2) then .error .incompatibleVersion
    else readDirectives true handles rest
  | hasVersion, handles, .tagHandle handle stem :: rest =>
    if (handles.lookup handle).isSome then .error .duplicateDirective
    else readDirectives hasVersion ((handle, stem) :: handles) rest
  | _, handles, rest => .ok (handles ++ defaultHandles, rest)

def isBetweenDocuments : Token → Bool
  | .version .. | .tagHandle .. | .documentStart | .documentEnd => true
  | _ => false

def readRoot (tokens : List Token) : Except Fault (Option Node × List Token) := do
  match tokens with
  | [] => return (none, [])
  | first :: _ =>
    let (handles, rest) ← readDirectives false [] tokens
    let explicit := match first with
      | .version .. | .tagHandle .. | .documentStart => true
      | _ => false
    let reader : NodeReader := { tokens := rest, handles }
    let reader ← if explicit then reader.expect .documentStart else pure reader
    if explicit && (reader.head?.map isBetweenDocuments).getD true then
      return (some (.empty {}), reader.tokens)
    let (node, reader) ← readNode true false (3 * tokens.length + 3) reader
    return (some node, reader.tokens)

end NodeReader

def readDocument (source : String) : Except Fault (Option Node) := do
  let (node, rest) ← NodeReader.readRoot (← tokens source)
  match rest.dropWhile (· = .documentEnd) with
  | [] => return node
  | _ => throw .severalDocuments

end ApiMock.Yaml
