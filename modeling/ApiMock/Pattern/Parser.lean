import ApiMock.Pattern.Automaton
import ApiMock.Pattern.NamedClass
import ApiMock.Text.Percent
import ApiMock.Text.Split

/-!
# Reading regular expressions

A reader by recursive descent. The flags in force are part of the state: a group of flags changes
them up to the end of the group around it, later alternatives included. Every reader takes a bound
on the number of its calls, which the length of the text provides.
-/

set_option autoImplicit false

namespace ApiMock.Pattern

structure Flags where
  ignoreCase : Bool := false
  multiLine : Bool := false
  dotMatchesNewline : Bool := false
  carriageReturns : Bool := false
  unicode : Bool := true
  extended : Bool := false

namespace Flags

/-- Sets or clears the flag of a letter. Greediness has no effect on occurrence. -/
def set? (flags : Flags) (letter : Char) (on : Bool) : Option Flags :=
  match letter with
  | 'i' => some { flags with ignoreCase := on }
  | 'm' => some { flags with multiLine := on }
  | 's' => some { flags with dotMatchesNewline := on }
  | 'U' => some flags
  | 'u' => some { flags with unicode := on }
  | 'R' => some { flags with carriageReturns := on }
  | 'x' => some { flags with extended := on }
  | _ => none

def fold (flags : Flags) (set : CharSet) : CharSet :=
  if !flags.ignoreCase then set
  else if flags.unicode then .folded set
  else .asciiFolded set

/-- A set or its complement. Without Unicode a complement would hold bytes that are no
characters. -/
def negate (flags : Flags) (negated : Bool) (set : CharSet) : Except Fault CharSet :=
  if !negated then .ok set
  else if flags.unicode then .ok (.complement set)
  else .error .notUtf8

end Flags

/-- What has been read: a part of an expression with its outline, and how deeply it is nested.
Flags cannot be repeated. -/
structure Part where
  regex : Regex
  outline : Outline
  depth : Nat := 0
  repeatable : Bool := true

namespace Part

def nothing : Part := ⟨.empty, .empty, 0, false⟩

def ofSet (set : CharSet) (depth : Nat) : Part := ⟨.set set, .ofSet set, depth, true⟩

def ofAssertion (condition : Assertion) : Part :=
  ⟨.assertion condition, .ofAssertion condition, 0, true⟩

def inSequence (parts : List Part) : Part :=
  match parts with
  | [] => nothing
  | [part] => part
  | _ =>
    { regex := parts.foldr (fun part rest => .concat part.regex rest) .empty
      outline := .inSequence (parts.map Part.outline)
      depth := (parts.map Part.depth).foldl max 0 + 1 }

def inAlternation (first : Part) (others : List Part) : Part :=
  match others with
  | [] => first
  | _ =>
    { regex := others.foldl (fun regex part => .alternation regex part.regex) first.regex
      outline := .inAlternation ((first :: others).map Part.outline)
      depth := (others.map Part.depth).foldl max first.depth + 1 }

def group (part : Part) (isRemembered : Bool) : Part :=
  { part with
    outline := if isRemembered then part.outline.group else part.outline
    depth := part.depth + 1
    repeatable := true }

def repeated (part : Part) (least : Nat) (most : Option Nat) : Part :=
  { regex := .repetition part.regex least most
    outline := part.outline.repeated least most
    depth := part.depth + 1 }

end Part

def isBlank (c : Char) : Bool := Property.whiteSpace.contains c

def skipExtended : Bool → List Char → List Char
  | _, [] => []
  | true, c :: rest => skipExtended (c ≠ '\n') rest
  | false, c :: rest =>
    if isBlank c then skipExtended false rest
    else if c = '#' then skipExtended true rest
    else c :: rest

def skip (flags : Flags) (text : List Char) : List Char :=
  if flags.extended then skipExtended false text else text

def startsWith (c : Char) : List Char → Bool
  | d :: _ => c == d
  | [] => false

/-! ## Escapes -/

/-- An escape sequence: a character, a class or an assertion. `byte` marks a character written as
two hexadecimal digits. -/
inductive Escape where
  | character (c : Char) (byte : Bool)
  | class (set : CharSet)
  | assertion (condition : Assertion)

def character? (digits : List Char) : Option Char :=
  match digits.mapM hexDigit? with
  | some values =>
    let code := values.foldl (fun code digit => code * 16 + digit) 0
    if !digits.isEmpty && Nat.isValidChar code then some (Char.ofNat code) else none
  | none => none

def readDigits (flags : Flags) : Nat → List Char → Except Fault (List Char × List Char)
  | 0, text => .ok ([], text)
  | count + 1, text =>
    match text with
    | [] => .error .malformedEscape
    | c :: rest =>
      match readDigits flags count (skip flags rest) with
      | .ok (digits, after) => .ok (c :: digits, after)
      | .error fault => .error fault

def readBraced (flags : Flags) : Nat → List Char → List Char →
    Except Fault (List Char × List Char)
  | 0, _, _ => .error .malformedEscape
  | fuel + 1, read, text =>
    match text with
    | [] => .error .malformedEscape
    | '\x7d' :: rest => .ok (read.reverse, rest)
    | c :: rest => readBraced flags fuel (c :: read) (skip flags rest)

def readCodePoint (flags : Flags) (digits : Nat) (text : List Char) :
    Except Fault (Escape × List Char) := do
  match skip flags text with
  | '\x7b' :: rest =>
    let (read, after) ← readBraced flags (rest.length + 1) [] (skip flags rest)
    match character? read with
    | some c => return (.character c false, skip flags after)
    | none => throw .malformedEscape
  | rest =>
    let (read, after) ← readDigits flags digits rest
    match character? read with
    | some c => return (.character c (digits == 2), after)
    | none => throw .malformedEscape

def propertyClass (name : List Char) : Option CharSet × Bool :=
  match Split.atWord? ['!', '='] name with
  | some (property, value) => (NamedClass.ofNameAndValue? property value, true)
  | none =>
    match (Split.atWord? [':'] name).or (Split.atWord? ['='] name) with
    | some (property, value) => (NamedClass.ofNameAndValue? property value, false)
    | none => (NamedClass.ofName? name, false)

def readProperty (flags : Flags) (negated : Bool) (text : List Char) :
    Except Fault (Escape × List Char) := do
  let (name, after) ← match skip flags text with
    | '\x7b' :: rest => readBraced flags (rest.length + 1) [] (skip flags rest)
    | '\\' :: _ => throw .malformedEscape
    | c :: rest => pure ([c], skip flags rest)
    | [] => throw .malformedEscape
  if !flags.unicode then throw .notUtf8
  match propertyClass name with
  | (none, _) => throw (.unknownClass (String.ofList name))
  | (some set, complement) =>
    let set ← flags.negate (negated != complement) (flags.fold set)
    return (.class set, after)

/-- Reads what may follow `\b`: a brace with the name of another assertion. A brace that no letter
follows is left to be read as a repetition. -/
def readWordAssertion (flags : Flags) (text : List Char) : Except Fault (Escape × List Char) := do
  let isNameChar (c : Char) : Bool := ('A' ≤ c && c ≤ 'Z') || ('a' ≤ c && c ≤ 'z') || c == '-'
  let ascii := !flags.unicode
  let plain := Escape.assertion (.wordBoundary ascii)
  match text with
  | '\x7b' :: rest =>
    match skip flags rest with
    | [] => throw .malformedEscape
    | c :: inner =>
      if !isNameChar c then return (plain, text)
      let (name, after) ← readBraced flags (inner.length + 2) [] (c :: inner)
      if !name.all isNameChar then throw .malformedEscape
      match String.ofList name with
      | "start" => return (.assertion (.wordStart ascii), after)
      | "end" => return (.assertion (.wordEnd ascii), after)
      | "start-half" => return (.assertion (.wordStartHalf ascii), after)
      | "end-half" => return (.assertion (.wordEndHalf ascii), after)
      | _ => throw .malformedEscape
  | _ => return (plain, text)

def readEscape (flags : Flags) (text : List Char) : Except Fault (Escape × List Char) := do
  let character (c : Char) (rest : List Char) : Except Fault (Escape × List Char) :=
    .ok (.character c false, rest)
  let ascii := !flags.unicode
  match text with
  | [] => throw .malformedEscape
  | c :: rest =>
    match c with
    | 'x' => readCodePoint flags 2 rest
    | 'u' => readCodePoint flags 4 rest
    | 'U' => readCodePoint flags 8 rest
    | 'p' => readProperty flags false rest
    | 'P' => readProperty flags true rest
    | 'a' => character '\x07' rest
    | 'f' => character '\x0C' rest
    | 't' => character '\t' rest
    | 'n' => character '\n' rest
    | 'r' => character '\r' rest
    | 'v' => character '\x0B' rest
    | 'A' => return (.assertion .startOfText, rest)
    | 'z' => return (.assertion .endOfText, rest)
    | 'b' => readWordAssertion flags rest
    | 'B' => return (.assertion (.noWordBoundary ascii), rest)
    | '<' => return (.assertion (.wordStart ascii), rest)
    | '>' => return (.assertion (.wordEnd ascii), rest)
    | _ =>
      match NamedClass.ofLetter? (Case.asciiLower c) flags.unicode with
      | some set =>
        let set ← flags.negate (c ≠ Case.asciiLower c) set
        return (.class set, rest)
      | none =>
        if '0' ≤ c ∧ c ≤ '9' then throw .backReference
        else if c ≤ '\x7F' ∧ !c.isAlpha then character c rest
        else throw .malformedEscape

/-- The set of a single character. Two hexadecimal digits beyond ASCII mean a byte when Unicode is
off, and so no text. -/
def literal (flags : Flags) (c : Char) (byte : Bool) : Except Fault CharSet :=
  if !flags.unicode && byte && '\x7F' < c then .error .notUtf8
  else .ok (flags.fold (.single c))

/-! ## Bracketed classes -/

inductive SetOperator where
  | inter
  | diff
  | symmDiff

def SetOperator.apply : SetOperator → CharSet → CharSet → CharSet
  | inter => .inter
  | diff => .diff
  | symmDiff => .symmDiff

structure Operand where
  sets : List CharSet := []
  depth : Nat := 0

namespace Operand

def push (operand : Operand) (set : CharSet) (depth : Nat) : Operand :=
  ⟨set :: operand.sets, max operand.depth depth⟩

/-- The set of an operand, and its nesting: a union of several counts as one more level. -/
def close (operand : Operand) : CharSet × Nat :=
  (.unions operand.sets.reverse, operand.depth + (if 2 ≤ operand.sets.length then 1 else 0))

/-- Joins a closed operand to what stands in front of its operator. Case is folded in both operands
first. -/
def join (flags : Flags) (left : Option (SetOperator × CharSet × Nat)) (operand : Operand) :
    CharSet × Nat :=
  match left with
  | none => operand.close
  | some (operator, set, depth) =>
    (operator.apply (flags.fold set) (flags.fold operand.close.1),
      max depth operand.close.2 + 1)

end Operand

inductive ClassItem where
  | character (c : Char)
  | set (set : CharSet)

def readClassItem (flags : Flags) (text : List Char) : Except Fault (ClassItem × List Char) := do
  let character (c : Char) (byte : Bool) (rest : List Char) :
      Except Fault (ClassItem × List Char) :=
    if !flags.unicode && '\x7F' < c then .error (if byte then .notUtf8 else .malformedClass)
    else .ok (.character c, rest)
  match text with
  | [] => throw .unclosedClass
  | '\\' :: rest =>
    match ← readEscape flags rest with
    | (.character c byte, after) => character c byte after
    | (.class set, after) => return (.set set, after)
    | (.assertion _, _) => throw .malformedClass
  | c :: rest => character c false rest

/-- Reads a single item or a range. A hyphen in front of a closing bracket or of another hyphen
makes no range. -/
def readClassRange (flags : Flags) (text : List Char) : Except Fault (CharSet × List Char) := do
  let single : ClassItem → CharSet
    | .character c => .single c
    | .set set => set
  let (first, rest) ← readClassItem flags text
  match skip flags rest with
  | [] => throw .unclosedClass
  | '-' :: afterHyphen =>
    let after := skip flags afterHyphen
    if startsWith ']' after || startsWith '-' after then
      return (single first, skip flags rest)
    else
      match first, ← readClassItem flags after with
      | .character low, (.character high, rest) =>
        if low ≤ high then return (.range low high, rest) else throw .malformedClass
      | _, _ => throw .malformedClass
  | rest => return (single first, rest)

def readBracketName? (flags : Flags) (text : List Char) :
    Option (Except Fault CharSet × List Char) :=
  match text with
  | ':' :: rest =>
    let (negated, rest) := match rest with
      | '^' :: rest => (true, rest)
      | _ => (false, rest)
    let name := rest.takeWhile (· ≠ ':')
    match rest.dropWhile (· ≠ ':') with
    | ':' :: ']' :: after =>
      (NamedClass.ofBracketName? (String.ofList name)).map fun set =>
        (flags.negate negated (flags.fold set), after)
    | _ => none
  | _ => none

def leadingHyphens (flags : Flags) : Nat → Operand → List Char → Operand × List Char
  | fuel + 1, operand, '-' :: rest =>
    leadingHyphens flags fuel (operand.push (.single '-') 0) (skip flags rest)
  | _, operand, text => (operand, text)

/-- Reads the opening of a class behind its bracket: a caret that negates it, and hyphens or a
closing bracket that stand for themselves. -/
def openClass (flags : Flags) (text : List Char) : Bool × Operand × List Char :=
  let text := skip flags text
  let (negated, text) := match text with
    | '^' :: rest => (true, skip flags rest)
    | _ => (false, text)
  let (operand, text) := leadingHyphens flags text.length {} text
  match operand.sets, text with
  | [], ']' :: rest => (negated, operand.push (.single ']') 0, skip flags rest)
  | _, _ => (negated, operand, text)

def readClass (flags : Flags) : Nat → Bool → Option (SetOperator × CharSet × Nat) → Operand →
    List Char → Except Fault (CharSet × Nat × List Char)
  | 0, _, _, _, _ => .error .unclosedClass
  | fuel + 1, negated, left, operand, text => do
    let operator (operator : SetOperator) (rest : List Char) :
        Except Fault (CharSet × Nat × List Char) :=
      let (set, depth) := operand.join flags left
      readClass flags fuel negated (some (operator, set, depth)) {} rest
    match skip flags text with
    | [] => throw .unclosedClass
    | ']' :: rest =>
      let (set, depth) := operand.join flags left
      return (← flags.negate negated (flags.fold set), depth + 1, rest)
    | '[' :: rest =>
      match readBracketName? flags rest with
      | some (set, after) => readClass flags fuel negated left (operand.push (← set) 0) after
      | none =>
        let (innerNegated, innerOperand, inner) := openClass flags rest
        let (set, depth, after) ← readClass flags fuel innerNegated none innerOperand inner
        readClass flags fuel negated left (operand.push set depth) after
    | '&' :: '&' :: rest => operator .inter rest
    | '-' :: '-' :: rest => operator .diff rest
    | '~' :: '~' :: rest => operator .symmDiff rest
    | rest =>
      let (set, after) ← readClassRange flags rest
      readClass flags fuel negated left (operand.push set 0) after

/-! ## Groups and repetitions -/

inductive Opening where
  | flags (flags : Flags)
  | group (flags : Flags) (isRemembered : Bool) (name : Option String)

/-- Reads flags up to a colon or a closing parenthesis. Every flag, and the hyphen behind which
flags are cleared, may occur once, and the hyphen not at the end. -/
def readFlags (flags : Flags) (seen : List Char) : List Char →
    Except Fault (Flags × List Char × Char × List Char)
  | [] => .error .malformedFlags
  | c :: rest =>
    if c = ':' ∨ c = ')' then
      if seen.head? = some '-' then .error .malformedFlags else .ok (flags, seen, c, rest)
    else if seen.contains c then .error .malformedFlags
    else if c = '-' then readFlags flags ('-' :: seen) rest
    else
      match flags.set? c (!seen.contains '-') with
      | some flags => readFlags flags (c :: seen) rest
      | none => .error .malformedFlags

def readGroupName (names : List String) (text : List Char) :
    Except Fault (String × List Char) := do
  let isFirst (c : Char) : Bool :=
    c == '_' || Property.alphabetic.contains c || Recent.alphabetic.contains c
  let isLater (c : Char) : Bool :=
    isFirst c || c == '.' || c == '[' || c == ']' ||
      [Category.decimalNumber, Category.letterNumber, Category.otherNumber, Recent.numeric].any
        (·.contains c)
  let name := text.takeWhile (· ≠ '>')
  match name, text.dropWhile (· ≠ '>') with
  | first :: later, '>' :: rest =>
    if !isFirst first || !later.all isLater then throw .malformedGroupName
    if names.contains (String.ofList name) then
      throw (.duplicateGroupName (String.ofList name))
    return (String.ofList name, rest)
  | _, _ => throw .malformedGroupName

def readOpening (flags : Flags) (names : List String) (text : List Char) :
    Except Fault (Opening × List Char) := do
  match skip flags text with
  | '?' :: '=' :: _ | '?' :: '!' :: _ | '?' :: '<' :: '=' :: _ | '?' :: '<' :: '!' :: _ =>
    throw .lookAround
  | '?' :: 'P' :: '<' :: rest | '?' :: '<' :: rest =>
    let (name, after) ← readGroupName names rest
    return (.group flags true (some name), after)
  | '?' :: rest =>
    let (inner, seen, final, after) ← readFlags flags [] rest
    if final = ':' then return (.group inner false none, after)
    if seen.isEmpty then throw .nothingToRepeat
    return (.flags inner, after)
  | rest => return (.group flags true none, rest)

def readCount (flags : Flags) (text : List Char) : Option Nat × List Char :=
  let rec digits : Nat → List Char → List Char → List Char × List Char
    | fuel + 1, read, c :: rest =>
      if '0' ≤ c ∧ c ≤ '9' then digits fuel (c :: read) (skip flags rest)
      else (read.reverse, c :: rest)
    | _, read, text => (read.reverse, text)
  let text := text.dropWhile isBlank
  let (read, rest) := digits text.length [] text
  let value := read.foldl (fun value c => value * 10 + (c.toNat - 0x30)) 0
  (if read.isEmpty || UInt32.size ≤ value then none else some value,
    skip flags (rest.dropWhile isBlank))

def readBounds (flags : Flags) (text : List Char) :
    Except Fault (Nat × Option Nat × List Char) := do
  let (least, rest) := readCount flags (skip flags text)
  let some least := least | throw .malformedRepetition
  match rest with
  | '\x7d' :: after => return (least, some least, after)
  | ',' :: rest =>
    match skip flags rest with
    | '\x7d' :: after => return (least, none, after)
    | rest =>
      match readCount flags rest with
      | (some most, '\x7d' :: after) =>
        if least ≤ most then return (least, some most, after) else throw .malformedRepetition
      | _ => throw .malformedRepetition
  | _ => throw .malformedRepetition

def repeatLatest (parts : List Part) (least : Nat) (most : Option Nat) : Except Fault (List Part) :=
  match parts with
  | part :: earlier =>
    if part.repeatable then .ok (part.repeated least most :: earlier)
    else .error .nothingToRepeat
  | [] => .error .nothingToRepeat

def dropLazy : List Char → List Char
  | '?' :: rest => rest
  | text => text

def lineAssertion (flags : Flags) (atEnd : Bool) : Assertion :=
  match flags.multiLine, atEnd with
  | false, false => .startOfText
  | false, true => .endOfText
  | true, false => .startOfLine flags.carriageReturns
  | true, true => .endOfLine flags.carriageReturns

def dot (flags : Flags) : Except Fault CharSet :=
  if !flags.unicode then .error .notUtf8
  else if flags.dotMatchesNewline then .ok .all
  else if flags.carriageReturns then .ok (.complement (.union (.single '\n') (.single '\r')))
  else .ok (.complement (.single '\n'))

structure Inside where
  flags : Flags
  names : List String
  alternatives : List Part := []
  parts : List Part := []

namespace Inside

def push (inside : Inside) (part : Part) : Inside :=
  { inside with parts := part :: inside.parts }

def close (inside : Inside) : Part :=
  let last := Part.inSequence inside.parts.reverse
  match (last :: inside.alternatives).reverse with
  | first :: others => Part.inAlternation first others
  | [] => last

end Inside

/-- Reads the inside of a group up to its closing parenthesis, or a whole expression up to its end.
Answers what was read, the names given to groups so far, and the rest of the text. -/
def readInside (inGroup : Bool) : Nat → Inside → List Char →
    Except Fault (Part × List String × List Char)
  | 0, _, _ => .error .unclosedGroup
  | fuel + 1, inside, text => do
    let flags := inside.flags
    let counted (least : Nat) (most : Option Nat) (rest : List Char) :
        Except Fault (Part × List String × List Char) := do
      let parts ← repeatLatest inside.parts least most
      readInside inGroup fuel { inside with parts } rest
    match skip flags text with
    | [] => if inGroup then throw .unclosedGroup else return (inside.close, inside.names, [])
    | ')' :: rest =>
      if inGroup then return (inside.close, inside.names, rest) else throw .unopenedGroup
    | '|' :: rest =>
      let alternatives := Part.inSequence inside.parts.reverse :: inside.alternatives
      readInside inGroup fuel { inside with alternatives, parts := [] } rest
    | '(' :: rest =>
      match ← readOpening flags inside.names rest with
      | (.flags flags, after) =>
        readInside inGroup fuel { inside with flags, parts := .nothing :: inside.parts } after
      | (.group innerFlags isRemembered name, inner) =>
        let names := name.toList ++ inside.names
        let (part, names, after) ← readInside true fuel { flags := innerFlags, names } inner
        readInside inGroup fuel { (inside.push (part.group isRemembered)) with names } after
    | '[' :: rest =>
      let (negated, operand, inner) := openClass flags rest
      let (set, depth, after) ← readClass flags (inner.length + 1) negated none operand inner
      readInside inGroup fuel (inside.push (.ofSet set depth)) after
    | '?' :: rest => counted 0 (some 1) (dropLazy rest)
    | '*' :: rest => counted 0 none (dropLazy rest)
    | '+' :: rest => counted 1 none (dropLazy rest)
    | '\x7b' :: rest =>
      let (least, most, after) ← readBounds flags rest
      counted least most (dropLazy (skip flags after))
    | '\\' :: rest =>
      match ← readEscape flags rest with
      | (.character c byte, after) =>
        readInside inGroup fuel (inside.push (.ofSet (← literal flags c byte) 0)) after
      | (.class set, after) => readInside inGroup fuel (inside.push (.ofSet set 0)) after
      | (.assertion condition, after) =>
        readInside inGroup fuel (inside.push (.ofAssertion condition)) after
    | '.' :: rest => readInside inGroup fuel (inside.push (.ofSet (← dot flags) 0)) rest
    | '^' :: rest =>
      readInside inGroup fuel (inside.push (.ofAssertion (lineAssertion flags false))) rest
    | '$' :: rest =>
      readInside inGroup fuel (inside.push (.ofAssertion (lineAssertion flags true))) rest
    | c :: rest =>
      readInside inGroup fuel (inside.push (.ofSet (← literal flags c false) 0)) rest

def maximalDepth : Nat := 250

def parse (source : String) : Except Fault Regex := do
  let text := source.toList
  let (part, _, _) ← readInside false (text.length + 1) { flags := {}, names := [] } text
  if maximalDepth < part.depth then throw .tooDeep
  if part.outline.isTooLarge then throw .tooLarge
  return part.regex

end ApiMock.Pattern
