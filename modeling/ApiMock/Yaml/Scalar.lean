import ApiMock.Text.Percent
import ApiMock.Yaml.Cursor
import ApiMock.Yaml.Token

/-!
# Texts of scalars

Scalars are written plain, between quotes, or as blocks of lines. Lines of plain and of quoted
scalars are folded: a single line break becomes a space, and of several the first one is dropped.
Blocks keep their lines or fold those that are not indented further.
-/

set_option autoImplicit false

namespace ApiMock.Yaml

/-! ## Gaps between words -/

structure Gap where
  blanks : List Char := []
  hasBreak : Bool := false
  firstBreak : List Char := []
  furtherBreaks : List Char := []

namespace Gap

def text (gap : Gap) : List Char :=
  if !gap.hasBreak then gap.blanks
  else if gap.firstBreak.head? = some '\n' then
    if gap.furtherBreaks.isEmpty then [' '] else gap.furtherBreaks
  else gap.firstBreak ++ gap.furtherBreaks

def withBreak (gap : Gap) (characters : List Char) : Gap :=
  if gap.hasBreak then { gap with furtherBreaks := gap.furtherBreaks ++ characters }
  else { hasBreak := true, firstBreak := characters }

/-- Reads a gap to its end. In front of some column a line must not be indented by tabs. -/
def read (indentation : Nat) : Nat → Gap → Cursor → Except Fault (Gap × Cursor)
  | 0, gap, cursor => .ok (gap, cursor)
  | fuel + 1, gap, cursor =>
    match cursor.head? with
    | none => .ok (gap, cursor)
    | some c =>
      if isBlank c then
        if !gap.hasBreak then
          read indentation fuel { gap with blanks := gap.blanks ++ [c] } (cursor.skip 1)
        else if c = '\t' ∧ cursor.column < indentation then .error .tabInIndentation
        else read indentation fuel gap (cursor.skip 1)
      else if isBreak c then
        let (characters, cursor) := cursor.takeBreak
        read indentation fuel (gap.withBreak characters) cursor
      else .ok (gap, cursor)

end Gap

/-! ## Quoted scalars -/

def shortEscape? : Char → Option Char
  | '0' => some '\x00'
  | 'a' => some '\x07'
  | 'b' => some '\x08'
  | 't' | '\t' => some '\t'
  | 'n' => some '\n'
  | 'v' => some '\x0B'
  | 'f' => some '\x0C'
  | 'r' => some '\r'
  | 'e' => some '\x1B'
  | ' ' => some ' '
  | '"' => some '"'
  | '/' => some '/'
  | '\\' => some '\\'
  | 'N' => some '\u0085'
  | '_' => some '\u00A0'
  | 'L' => some '\u2028'
  | 'P' => some '\u2029'
  | _ => none

def escapeDigits? : Char → Option Nat
  | 'x' => some 2
  | 'u' => some 4
  | 'U' => some 8
  | _ => none

def hexValue? (digits : List Char) : Option Nat :=
  digits.foldl (fun value? c => do return (← value?) * 16 + (← hexDigit? c)) (some 0)

def escape? (rest : List Char) : Option (Char × Nat) :=
  match rest with
  | [] => none
  | letter :: digits =>
    match shortEscape? letter, escapeDigits? letter with
    | some c, _ => some (c, 1)
    | none, some count =>
      let written := digits.take count
      if written.length < count then none
      else
        (hexValue? written).bind fun code =>
          if h : code.isValidChar then some (Char.ofNatAux code h, count + 1) else none
    | none, none => none

def readQuoted (single : Bool) : Nat → List Char → Cursor → Except Fault (String × Cursor)
  | 0, _, _ => .error .unexpectedEnd
  | fuel + 1, read, cursor =>
    match cursor.rest with
    | [] => .error .unexpectedEnd
    | c :: rest =>
      if cursor.isAtDocument then .error .documentMark
      else if single ∧ c = '\'' ∧ rest.head? = some '\'' then
        readQuoted single fuel ('\'' :: read) (cursor.skip 2)
      else if c = (if single then '\'' else '"') then
        .ok (String.ofList read.reverse, cursor.skip 1)
      else if isBlank c || isBreak c then do
        let (gap, cursor) ← Gap.read 0 cursor.rest.length {} cursor
        readQuoted single fuel (gap.text.reverse ++ read) cursor
      else if !single && c == '\\' then
        if (rest.head?.map isBreak).getD false then do
          let (_, afterBreak) := (cursor.skip 1).takeBreak
          let (gap, cursor) ← Gap.read 0 afterBreak.rest.length { hasBreak := true } afterBreak
          readQuoted single fuel (gap.text.reverse ++ read) cursor
        else
          match escape? rest with
          | some (c, length) => readQuoted single fuel (c :: read) (cursor.skip (length + 1))
          | none => .error .malformedEscape
      else readQuoted single fuel (c :: read) (cursor.skip 1)

/-! ## Plain scalars -/

def isFlowMark (c : Char) : Bool := [',', '[', ']', '\x7b', '\x7d'].contains c

def endsPlain (inFlow : Bool) (c : Char) (next : Option Char) : Bool :=
  c == ':' && Cursor.separates next || inFlow && isFlowMark c

/-- Reads a plain scalar. The characters read so far come in reverse, the gap behind them belongs to
the scalar only if more of it follows. Gives the gap that was read last. -/
def readPlain (inFlow : Bool) (indentation : Nat) :
    Nat → List Char → Gap → Cursor → Except Fault (String × Gap × Cursor)
  | 0, read, gap, cursor => .ok (String.ofList read.reverse, gap, cursor)
  | fuel + 1, read, gap, cursor =>
    let finished := (String.ofList read.reverse, gap, cursor)
    match cursor.rest with
    | [] => .ok finished
    | c :: rest =>
      if isBlank c || isBreak c then do
        let (gap, cursor) ← Gap.read indentation cursor.rest.length {} cursor
        let ends := (!inFlow && decide (cursor.column < indentation)) || cursor.isAtDocument ||
          cursor.head? == some '#'
        if ends then return (String.ofList read.reverse, gap, cursor)
        else readPlain inFlow indentation fuel read gap cursor
      else if inFlow && c == ':' && (rest.head?.map fun d => isFlowMark d || d == '?').getD false
      then .error .unexpectedColon
      else if endsPlain inFlow c rest.head? then .ok finished
      else
        readPlain inFlow indentation fuel (c :: gap.text.reverse ++ read) {} (cursor.skip 1)

/-! ## Block scalars -/

inductive Chomping where
  | strip
  | clip
  | keep
deriving DecidableEq

def chomping? : Option Char → Option Chomping
  | some '+' => some .keep
  | some '-' => some .strip
  | _ => none

structure BlockHeader where
  chomping : Chomping := .clip
  indentation : Option Nat := none

def readIndentation (cursor : Cursor) : Except Fault (Option Nat × Cursor) :=
  match cursor.head? with
  | some c =>
    if c = '0' then .error .malformedBlockHeader
    else if c.isDigit then .ok (some (c.toNat - 0x30), cursor.skip 1)
    else .ok (none, cursor)
  | none => .ok (none, cursor)

def readBlockHeader (cursor : Cursor) : Except Fault (BlockHeader × Cursor) := do
  let (header, cursor) ← match chomping? cursor.head? with
    | some chomping =>
      let (indentation, cursor) ← readIndentation (cursor.skip 1)
      pure ({ chomping, indentation : BlockHeader }, cursor)
    | none =>
      let (indentation, cursor) ← readIndentation cursor
      match indentation.bind fun _ => chomping? cursor.head? with
      | some chomping => pure ({ chomping, indentation : BlockHeader }, cursor.skip 1)
      | none => pure ({ indentation : BlockHeader }, cursor)
  match cursor.skipComment? with
  | some cursor => return (header, cursor)
  | none => throw .malformedBlockHeader

/-- Reads empty lines, up to some indentation or, if it is unknown, with any. Gives their breaks and
the widest indentation. -/
def readEmptyLines (indentation : Option Nat) :
    Nat → List Char → Nat → Cursor → Except Fault (List Char × Nat × Cursor)
  | 0, breaks, widest, cursor => .ok (breaks, widest, cursor)
  | fuel + 1, breaks, widest, cursor =>
    let spaces := (cursor.rest.takeWhile (· = ' ')).length
    let skipped := match indentation with
      | some columns => min spaces (columns - cursor.column)
      | none => spaces
    let cursor := cursor.skip skipped
    let widest := max widest cursor.column
    let before := (indentation.map fun columns => decide (cursor.column < columns)).getD true
    if before ∧ cursor.head? = some '\t' then .error .tabInIndentation
    else
      match cursor.takeBreak with
      | ([], _) => .ok (breaks, widest, cursor)
      | (characters, cursor) =>
        readEmptyLines indentation fuel (breaks ++ characters) widest cursor

/-- The breaks between two lines of a block, which are folded if neither line is indented
further. -/
def lineBreaks (folds : Bool) (lineBreak emptyLines : List Char) : List Char :=
  if folds && lineBreak.head? == some '\n' then
    if emptyLines.isEmpty then [' '] else emptyLines
  else lineBreak ++ emptyLines

/-- Reads the lines of a block. The characters read so far come in reverse; the breaks behind them
are those of the last line and of the empty lines behind it. -/
def readBlockLines (folded : Bool) (chomping : Chomping) (indentation : Nat) :
    Nat → List Char → Bool → List Char → List Char → Cursor → Except Fault (String × Cursor)
  | 0, read, _, _, _, cursor => .ok (String.ofList read.reverse, cursor)
  | fuel + 1, read, indentedFurther, lineBreak, emptyLines, cursor =>
    if cursor.column ≠ indentation ∨ cursor.rest.isEmpty then
      let kept := match chomping with
        | .strip => []
        | .clip => lineBreak
        | .keep => lineBreak ++ emptyLines
      .ok (String.ofList (read.reverse ++ kept), cursor)
    else do
      let startsBlank := (cursor.head?.map isBlank).getD false
      let joined := lineBreaks (folded && !indentedFurther && !startsBlank) lineBreak emptyLines
      let (line, cursor) := cursor.takeWhile (!isBreak ·)
      let (lineBreak, cursor) := cursor.takeBreak
      let (emptyLines, _, cursor) ←
        readEmptyLines (some indentation) (cursor.rest.length + 1) [] 0 cursor
      readBlockLines folded chomping indentation fuel (line.reverse ++ (joined.reverse ++ read))
        startsBlank lineBreak emptyLines cursor

/-- Reads a block scalar behind its mark. The column of the block around it is that of its
indentation, or none at the top. -/
def readBlock (folded : Bool) (outer : Option Nat) (cursor : Cursor) :
    Except Fault (String × Cursor) := do
  let (header, cursor) ← readBlockHeader cursor
  let fuel := cursor.rest.length + 1
  let given := header.indentation.map fun columns => outer.getD 0 + columns
  let (emptyLines, widest, cursor) ← readEmptyLines given fuel [] 0 cursor
  let least := (outer.map (· + 1)).getD 0
  let indentation := given.getD (max (max widest least) 1)
  readBlockLines folded header.chomping indentation fuel [] false [] emptyLines cursor

end ApiMock.Yaml
