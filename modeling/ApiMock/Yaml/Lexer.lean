import ApiMock.Yaml.Scalar

/-!
# Tokens from YAML texts

A block begins where the indentation grows and ends where it shrinks. A key of a mapping is known as
such only at its colon: until then its place among the tokens is remembered.
-/

set_option autoImplicit false

namespace ApiMock.Yaml

/-- What may turn out to be a key: its place in the text and among the tokens. In a block, what
stands at the column of the block has to be one. -/
structure PendingKey where
  line : Nat
  column : Nat
  index : Nat
  position : Nat
  required : Bool

structure Lexer where
  cursor : Cursor
  tokens : List Token := []
  indent : Option Nat := none
  outer : List (Option Nat) := []
  pending : Option PendingKey := none
  around : List (Option PendingKey) := []
  keyAllowed : Bool := true

namespace Lexer

def inFlow (lexer : Lexer) : Bool := !lexer.around.isEmpty

def push (lexer : Lexer) (token : Token) : Lexer := { lexer with tokens := token :: lexer.tokens }

def insertAt (lexer : Lexer) (position : Nat) (token : Token) : Lexer :=
  let behind := lexer.tokens.length - position
  { lexer with
    tokens := lexer.tokens.take behind ++ token :: lexer.tokens.drop behind }

/-! ## Indentation and keys -/

def isDeeper (column : Nat) (indent : Option Nat) : Bool :=
  (indent.map fun outer => decide (outer < column)).getD true

/-- Begins a block if a column is deeper than that of the innermost one. -/
def openBlock (lexer : Lexer) (column position : Nat) (token : Token) : Lexer :=
  if lexer.inFlow || !isDeeper column lexer.indent then lexer
  else
    { lexer.insertAt position token with
      indent := some column
      outer := lexer.indent :: lexer.outer }

def closeBlocks (column : Option Nat) : Nat → Lexer → Lexer
  | 0, lexer => lexer
  | fuel + 1, lexer =>
    let ends := match lexer.indent, column with
      | some indent, some column => decide (column < indent)
      | some _, none => true
      | none, _ => false
    if lexer.inFlow || !ends then lexer
    else
      closeBlocks column fuel
        { lexer.push .blockEnd with indent := lexer.outer.head?.join, outer := lexer.outer.tail }

def close (lexer : Lexer) (column : Option Nat) : Lexer :=
  closeBlocks column (lexer.outer.length + 1) lexer

/-- What may still be a key: it has to be in the line and near. -/
def refresh? (cursor : Cursor) (pending : Option PendingKey) :
    Except Fault (Option PendingKey) :=
  match pending with
  | none => .ok none
  | some key =>
    if key.line < cursor.line ∨ key.index + 1024 < cursor.index then
      if key.required then .error .missingColon else .ok none
    else .ok (some key)

def forgetStale (lexer : Lexer) : Except Fault Lexer := do
  let around ← lexer.around.mapM (refresh? lexer.cursor)
  let pending ← refresh? lexer.cursor lexer.pending
  return { lexer with pending, around }

def dropKey (lexer : Lexer) : Except Fault Lexer :=
  if (lexer.pending.map PendingKey.required).getD false then .error .missingColon
  else .ok { lexer with pending := none }

def saveKey (lexer : Lexer) : Except Fault Lexer :=
  if !lexer.keyAllowed then .ok lexer
  else do
    let lexer ← lexer.dropKey
    let cursor := lexer.cursor
    return { lexer with
      pending := some {
        line := cursor.line
        column := cursor.column
        index := cursor.index
        position := lexer.tokens.length
        required := !lexer.inFlow && lexer.indent == some cursor.column } }

/-! ## Blanks between tokens -/

def skipToToken : Nat → Lexer → Lexer
  | 0, lexer => lexer
  | fuel + 1, lexer =>
    -- Tabs are blanks only where no key of a block can begin.
    let tabs := lexer.inFlow || !lexer.keyAllowed
    let (_, cursor) :=
      lexer.cursor.skipByteOrderMark.takeWhile fun c => c == ' ' || (tabs && c == '\t')
    let cursor := if cursor.head? = some '#' then (cursor.takeWhile (!isBreak ·)).2 else cursor
    match cursor.takeBreak with
    | ([], _) => { lexer with cursor }
    | (_, cursor) =>
      skipToToken fuel
        { lexer with cursor, keyAllowed := lexer.keyAllowed || !lexer.inFlow }

/-! ## Tokens of one kind -/

def mark (lexer : Lexer) (length : Nat) (token : Token) : Lexer :=
  { lexer.push token with cursor := lexer.cursor.skip length }

def readDocumentMark (lexer : Lexer) (token : Token) : Except Fault Lexer := do
  let lexer ← (lexer.close none).dropKey
  return { lexer.mark 3 token with keyAllowed := false }

def openFlow (lexer : Lexer) (token : Token) : Except Fault Lexer := do
  let lexer ← lexer.saveKey
  return { lexer.mark 1 token with
    pending := none, around := lexer.pending :: lexer.around, keyAllowed := true }

def closeFlow (lexer : Lexer) (token : Token) : Except Fault Lexer := do
  let lexer ← lexer.dropKey
  let lexer := { lexer.mark 1 token with keyAllowed := false }
  match lexer.around with
  | [] => return lexer
  | pending :: around => return { lexer with pending, around }

def readSeparator (lexer : Lexer) : Except Fault Lexer := do
  let lexer ← lexer.dropKey
  return { lexer.mark 1 .separator with keyAllowed := true }

def beginBlock (lexer : Lexer) (token : Token) (fault : Fault) : Except Fault Lexer :=
  if lexer.inFlow then .ok lexer
  else if !lexer.keyAllowed then .error fault
  else .ok (lexer.openBlock lexer.cursor.column lexer.tokens.length token)

def readEntry (lexer : Lexer) : Except Fault Lexer := do
  let lexer ← (← lexer.beginBlock .blockSequence .misplacedEntry).dropKey
  return { lexer.mark 1 .entry with keyAllowed := true }

def readKey (lexer : Lexer) : Except Fault Lexer := do
  let lexer ← (← lexer.beginBlock .blockMapping .misplacedKey).dropKey
  return { lexer.mark 1 .key with keyAllowed := !lexer.inFlow }

def readValue (lexer : Lexer) : Except Fault Lexer :=
  match lexer.pending with
  | some key =>
    let lexer := (lexer.insertAt key.position .key).openBlock key.column key.position .blockMapping
    .ok { lexer.mark 1 .value with pending := none, keyAllowed := false }
  | none => do
    let lexer ← lexer.beginBlock .blockMapping .misplacedValue
    return { lexer.mark 1 .value with keyAllowed := !lexer.inFlow }

def readKeyable (lexer : Lexer) (read : Cursor → Except Fault (Token × Cursor)) :
    Except Fault Lexer := do
  let lexer ← lexer.saveKey
  let (token, cursor) ← read lexer.cursor
  return { lexer.push token with cursor, keyAllowed := false }

def endsName (c : Option Char) : Bool :=
  Cursor.separates c || (c.map fun c => "?:,]\x7d%@\x60".toList.contains c).getD false

def readName (make : String → Token) (cursor : Cursor) : Except Fault (Token × Cursor) :=
  let (name, cursor) := (cursor.skip 1).takeWhile isWordChar
  if name.isEmpty || !endsName cursor.head? then .error .malformedAnchor
  else .ok (make (String.ofList name), cursor)

/-! ## Tags -/

def isTagChar (c : Char) : Bool := isWordChar c || ";/?:@&=+$.!~*'()%".toList.contains c

def isUriChar (c : Char) : Bool := isTagChar c || ",[]".toList.contains c

def readEscapes : List Char → Bytes × List Char
  | '%' :: a :: b :: rest =>
    match Percent.escapedByte? a b with
    | some byte =>
      let (bytes, rest) := readEscapes rest
      (byte :: bytes, rest)
    | none => ([], '%' :: a :: b :: rest)
  | rest => ([], rest)

def resolveEscapes : Nat → List Char → Option (List Char)
  | _, [] => some []
  | 0, _ => none
  | fuel + 1, '%' :: rest =>
    match readEscapes ('%' :: rest) with
    | ([], _) => none
    | (bytes, after) => do
      let text ← Utf8.decode? bytes
      return text.toList ++ (← resolveEscapes fuel after)
  | fuel + 1, c :: rest => do return c :: (← resolveEscapes fuel rest)

def readTagText (kind : Char → Bool) (cursor : Cursor) : Except Fault (List Char × Cursor) :=
  let (written, cursor) := cursor.takeWhile kind
  match resolveEscapes (written.length + 1) written with
  | some text => .ok (text, cursor)
  | none => .error .malformedTag

def readVerbatimTag (cursor : Cursor) : Except Fault (Token × Cursor) := do
  let (text, cursor) ← readTagText isUriChar (cursor.skip 2)
  if text.isEmpty || cursor.head? ≠ some '>' then throw .malformedTag
  return (.tag "" (String.ofList text), cursor.skip 1)

def readHandle (cursor : Cursor) : List Char × Cursor :=
  let (name, cursor) := (cursor.skip 1).takeWhile isWordChar
  if cursor.head? = some '!' then ('!' :: name ++ ['!'], cursor.skip 1) else ('!' :: name, cursor)

def readTag (inFlow : Bool) (cursor : Cursor) : Except Fault (Token × Cursor) := do
  let (token, cursor) ←
    if cursor.second? = some '<' then readVerbatimTag cursor
    else
      let (handle, cursor) := readHandle cursor
      if 1 < handle.length ∧ handle.getLast? = some '!' then do
        let (text, cursor) ← readTagText isTagChar cursor
        if text.isEmpty then throw .malformedTag
        pure (Token.tag (String.ofList handle) (String.ofList text), cursor)
      else do
        let (text, cursor) ← readTagText isTagChar cursor
        let suffix := handle.tail ++ text
        if suffix.isEmpty then pure (Token.tag "" "!", cursor)
        else pure (Token.tag "!" (String.ofList suffix), cursor)
  if (inFlow && cursor.head? == some ',') || Cursor.separates cursor.head? then
    return (token, cursor)
  else throw .malformedTag

/-! ## Directives -/

def readVersionNumber (cursor : Cursor) : Except Fault (Nat × Cursor) :=
  let (digits, cursor) := cursor.takeWhile Char.isDigit
  if digits.isEmpty || 9 < digits.length then .error .malformedDirective
  else .ok (digits.foldl (fun value c => value * 10 + (c.toNat - 0x30)) 0, cursor)

def readVersion (cursor : Cursor) : Except Fault (Token × Cursor) := do
  let (major, cursor) ← readVersionNumber (cursor.takeWhile isBlank).2
  if cursor.head? ≠ some '.' then throw .malformedDirective
  let (minor, cursor) ← readVersionNumber (cursor.skip 1)
  return (.version major minor, cursor)

def readTagDirective (cursor : Cursor) : Except Fault (Token × Cursor) := do
  let (_, cursor) := cursor.takeWhile isBlank
  if cursor.head? ≠ some '!' then throw .malformedDirective
  let (handle, cursor) := readHandle cursor
  if handle.getLast? ≠ some '!' then throw .malformedDirective
  if !(cursor.head?.map isBlank).getD false then throw .malformedDirective
  let (stem, cursor) ← readTagText isUriChar (cursor.takeWhile isBlank).2
  if stem.isEmpty || !Cursor.separates cursor.head? then throw .malformedDirective
  return (.tagHandle (String.ofList handle) (String.ofList stem), cursor)

def readDirective (lexer : Lexer) : Except Fault Lexer := do
  let lexer ← (lexer.close none).dropKey
  let (name, cursor) := (lexer.cursor.skip 1).takeWhile isWordChar
  if !Cursor.separates cursor.head? then throw .malformedDirective
  let (token, cursor) ←
    if name = "YAML".toList then readVersion cursor
    else if name = "TAG".toList then readTagDirective cursor
    else throw .malformedDirective
  match cursor.skipComment? with
  | some cursor => return { lexer.push token with cursor, keyAllowed := false }
  | none => throw .malformedDirective

/-! ## Scalars -/

def readBlockScalar (lexer : Lexer) (folded : Bool) : Except Fault Lexer := do
  let lexer ← lexer.dropKey
  let (text, cursor) ← readBlock folded lexer.indent (lexer.cursor.skip 1)
  let style := if folded then Style.folded else Style.literal
  return { lexer.push (.scalar style text) with cursor, keyAllowed := true }

def readQuotedScalar (single : Bool) (cursor : Cursor) : Except Fault (Token × Cursor) := do
  let (text, cursor) ← readQuoted single (cursor.rest.length + 1) [] (cursor.skip 1)
  return (.scalar (if single then .singleQuoted else .doubleQuoted) text, cursor)

def readPlainScalar (lexer : Lexer) : Except Fault Lexer := do
  let lexer ← lexer.saveKey
  let indentation := (lexer.indent.map (· + 1)).getD 0
  let (text, gap, cursor) ←
    readPlain lexer.inFlow indentation (2 * lexer.cursor.rest.length + 2) [] {} lexer.cursor
  return { lexer.push (.scalar .plain text) with cursor, keyAllowed := gap.hasBreak }

/-! ## The whole text -/

def beginsPlain (inFlow : Bool) (c : Char) (next : Option Char) : Bool :=
  !(isBlank c || "-?:,[]\x7b\x7d#&*!|>'\"%@\x60".toList.contains c) ||
    (c == '-' && !(next.map isBlank).getD false) ||
    (!inFlow && (c == '?' || c == ':') && !Cursor.separates next)

def readToken (lexer : Lexer) (c : Char) : Except Fault Lexer :=
  let cursor := lexer.cursor
  let next := cursor.second?
  if cursor.column = 0 ∧ c = '%' then lexer.readDirective
  else if cursor.isAtMark '-' then lexer.readDocumentMark .documentStart
  else if cursor.isAtMark '.' then lexer.readDocumentMark .documentEnd
  else if c = '[' then lexer.openFlow .flowSequence
  else if c = '\x7b' then lexer.openFlow .flowMapping
  else if c = ']' then lexer.closeFlow .flowSequenceEnd
  else if c = '\x7d' then lexer.closeFlow .flowMappingEnd
  else if c = ',' then lexer.readSeparator
  else if c = '-' ∧ Cursor.separates next then lexer.readEntry
  else if c = '?' ∧ (lexer.inFlow ∨ Cursor.separates next) then lexer.readKey
  else if c = ':' ∧ (lexer.inFlow ∨ Cursor.separates next) then lexer.readValue
  else if c = '*' then lexer.readKeyable (readName .alias)
  else if c = '&' then lexer.readKeyable (readName .anchor)
  else if c = '!' then lexer.readKeyable (readTag lexer.inFlow)
  else if c = '|' ∧ !lexer.inFlow then lexer.readBlockScalar false
  else if c = '>' ∧ !lexer.inFlow then lexer.readBlockScalar true
  else if c = '\'' then lexer.readKeyable (readQuotedScalar true)
  else if c = '"' then lexer.readKeyable (readQuotedScalar false)
  else if beginsPlain lexer.inFlow c next then lexer.readPlainScalar
  else .error (.unexpectedCharacter c)

def readAll : Nat → Lexer → Except Fault (List Token)
  | 0, lexer => .ok lexer.tokens.reverse
  | fuel + 1, lexer => do
    let lexer := skipToToken (lexer.cursor.rest.length + 1) lexer
    let lexer ← lexer.forgetStale
    let lexer := lexer.close (some lexer.cursor.column)
    match lexer.cursor.head? with
    | some c => readAll fuel (← lexer.readToken c)
    | none => return (← (lexer.close none).dropKey).tokens.reverse

end Lexer

def tokens (source : String) : Except Fault (List Token) :=
  let text := source.toList
  match text.find? fun c => !isAllowed c with
  | some c => .error (.forbiddenCharacter c)
  | none => Lexer.readAll (text.length + 1) { cursor := { rest := text } }

end ApiMock.Yaml
