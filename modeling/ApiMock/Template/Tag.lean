import ApiMock.Json.Reader
import ApiMock.Template.Syntax
import ApiMock.Text.Split

/-!
# Tags of templates

A tag stands between double braces: a comment, a value or a call of a helper, the opening or the end
of a block, or an alternative inside of one. A tilde at either end drops the blanks there.
-/

set_option autoImplicit false

namespace ApiMock.Template

/-! ## Names, literals and paths -/

def isBlank (c : Char) : Bool := c == ' ' || c == '\t' || c == '\n' || c == '\r'

def skipBlanks (text : List Char) : List Char := text.dropWhile isBlank

def isNameChar (c : Char) : Bool :=
  c.isAlphanum || c == '-' || c == '_' || c == '$' || c == ':' || '\x7F' < c

def readName? (text : List Char) : Option (String × List Char) :=
  match text.takeWhile isNameChar with
  | [] => none
  | name => some (String.ofList name, text.dropWhile isNameChar)

def startsWithWord (word : String) (text : List Char) : Bool :=
  match Split.dropWord? word.toList text with
  | some rest => !(rest.head?.map isNameChar).getD false
  | none => false

/-- Whether one of the words that end a list of arguments stands at the front of a text. Such a word
is an argument after all if a name follows it, even behind blanks. -/
def startsWithKeyword (text : List Char) : Bool :=
  ["as", "else"].any fun word =>
    match Split.dropWord? word.toList text with
    | some rest => !((skipBlanks rest).head?.map isNameChar).getD false
    | none => false

def afterQuoted? (quote : Char) : List Char → Option (List Char)
  | [] => none
  | '\\' :: 'u' :: a :: b :: c :: d :: rest =>
    if (Json.codeUnit? a b c d).isSome then afterQuoted? quote rest else none
  | '\\' :: c :: rest =>
    if c = quote ∨ c = '\\' ∨ (c ≠ '"' ∧ (Json.shortEscape? c).isSome) then afterQuoted? quote rest
    else none
  | c :: rest =>
    if c = quote then some rest else if c = '\\' then none else afterQuoted? quote rest

def startsWithDigit (text : List Char) : Bool := (text.head?.map Char.isDigit).getD false

/-- What stands behind a number. A character of a name cannot follow it directly. The exponent has a
capital letter and no plus sign. -/
def afterNumber? (text : List Char) : Option (List Char) :=
  let unsigned := match text with
    | '-' :: rest => rest
    | _ => text
  if !startsWithDigit unsigned then none
  else
    let afterWhole := unsigned.dropWhile Char.isDigit
    let afterFraction := match afterWhole with
      | '.' :: rest => rest.dropWhile Char.isDigit
      | _ => afterWhole
    let after := match afterFraction with
      | 'E' :: rest =>
        let digits := match rest with
          | '-' :: digits => digits
          | _ => rest
        if startsWithDigit digits then digits.dropWhile Char.isDigit else afterFraction
      | _ => afterFraction
    if (after.head?.map isNameChar).getD false then none else some after

mutual

def afterLiteral? : Nat → List Char → Option (List Char)
  | 0, _ => none
  | fuel + 1, text =>
    match text with
    | '"' :: rest => afterQuoted? '"' rest
    | '\'' :: rest => afterQuoted? '\'' rest
    | '[' :: rest =>
      let items := skipBlanks rest
      afterItems? fuel ((afterLiteral? fuel items).getD items)
    | '\x7b' :: rest =>
      let members := skipBlanks rest
      afterMembers? fuel ((afterMember? fuel members).getD members)
    | _ =>
      let word (letters : String) : Option (List Char) :=
        if startsWithWord letters text then some (text.drop letters.length) else none
      (afterNumber? text).or ((word "null").or ((word "true").or (word "false")))

def afterItems? : Nat → List Char → Option (List Char)
  | 0, _ => none
  | fuel + 1, text =>
    match skipBlanks text with
    | ']' :: rest => some rest
    | ',' :: rest => (afterLiteral? fuel (skipBlanks rest)).bind (afterItems? fuel)
    | _ => none

def afterMember? : Nat → List Char → Option (List Char)
  | 0, _ => none
  | fuel + 1, text =>
    let afterName? := match text with
      | '"' :: rest => afterQuoted? '"' rest
      | '\'' :: rest => afterQuoted? '\'' rest
      | _ => none
    match afterName?.map skipBlanks with
    | some (':' :: rest) => afterLiteral? fuel (skipBlanks rest)
    | _ => none

def afterMembers? : Nat → List Char → Option (List Char)
  | 0, _ => none
  | fuel + 1, text =>
    match skipBlanks text with
    | '\x7d' :: rest => some rest
    | ',' :: rest => (afterMember? fuel (skipBlanks rest)).bind (afterMembers? fuel)
    | _ => none

end

def requote : List Char → List Char
  | '\\' :: '\'' :: rest => '\'' :: requote rest
  | '"' :: rest => '\\' :: '"' :: requote rest
  | c :: rest => c :: requote rest
  | [] => []

/-- The value of a literal, which has to be JSON but for single quotes around a text. -/
def literalValue (text : List Char) : Except SyntaxError Value :=
  let json := match text with
    | '\'' :: rest => '"' :: requote rest.dropLast ++ ['"']
    | _ => text
  match Json.read (String.ofList json) with
  | .ok value => .ok value
  | .error _ => .error .malformedLiteral

def readLiteral? (text : List Char) : Option (Except SyntaxError Value × List Char) :=
  (afterLiteral? (text.length + 1) text).map fun rest =>
    (literalValue (text.take (text.length - rest.length)), rest)

def isSeparator (c : Char) : Bool := c == '.' || c == '/'

def dropStep? (word : String) (text : List Char) : Option (List Char) :=
  match Split.dropWord? word.toList text with
  | some (c :: rest) => if isSeparator c then some rest else none
  | _ => none

def readPathName? (text : List Char) : Option (String × List Char) :=
  match text with
  | '[' :: rest =>
    match Split.atFirst ']' rest with
    | (name, some after) => some (String.ofList name, after)
    | (_, none) => none
  | _ => readName? text

def readPathNames : Nat → List Char → List String × List Char
  | 0, text => ([], text)
  | fuel + 1, text =>
    match text with
    | c :: rest =>
      match isSeparator c, readPathName? rest with
      | true, some (name, after) =>
        let (names, after) := readPathNames fuel after
        (name :: names, after)
      | _, _ => ([], text)
    | [] => ([], [])

def readOutwards : Nat → List Char → Nat × List Char
  | 0, text => (0, text)
  | fuel + 1, text =>
    match dropStep? ".." text with
    | some rest =>
      let (count, after) := readOutwards fuel rest
      (count + 1, after)
    | none => (0, text)

/-- Reads a path. The name `this` stands for the value of the block itself, wherever it occurs. -/
def readPath? (text : List Char) : Option (Path × List Char) := do
  let afterHere := (dropStep? "this" text).getD ((Split.dropWord? ['.', '/'] text).getD text)
  let (isRoot, afterRoot) := match dropStep? "@root" afterHere with
    | some rest => (true, rest)
    | none => (false, afterHere)
  let (isVariable, afterMark) := match afterRoot with
    | '@' :: rest => (true, rest)
    | _ => (false, afterRoot)
  let (outwards, afterOutwards) := readOutwards afterMark.length afterMark
  let (first, afterFirst) ← readPathName? afterOutwards
  let (others, rest) := readPathNames afterFirst.length afterFirst
  let names := (first :: others).filter (· ≠ "this")
  let origin : Origin :=
    if isRoot then .root
    else if isVariable then
      match names with
      | name :: _ => .variable outwards name
      | [] => .block 0
    else .block outwards
  some (⟨String.ofList (text.take (text.length - rest.length)), origin, names⟩, rest)

/-! ## Arguments and calls -/

structure Arguments where
  params : List Param
  named : List (String × Param)

mutual

def readParam? : Nat → List Char → Except SyntaxError (Option (Param × List Char))
  | 0, _ => .ok none
  | fuel + 1, text =>
    if startsWithKeyword text then .ok none
    else
      match readLiteral? text, readPath? text, text with
      | some (.ok value, rest), _, _ => .ok (some (.literal value, rest))
      | some (.error fault, _), _, _ => .error fault
      | none, some (path, rest), _ => .ok (some (.path path, rest))
      | none, none, '(' :: rest => do
        match ← readInnerCall? fuel (skipBlanks rest) with
        | some (call, after) => return some (.call call, after)
        | none => return none
      | none, none, _ => .ok none

def readArguments : Nat → List Char → Except SyntaxError (Arguments × List Char)
  | 0, text => .ok (⟨[], []⟩, text)
  | fuel + 1, text => do
    let start := skipBlanks text
    let named? ← match readName? start with
      | some (name, afterName) =>
        match skipBlanks afterName with
        | '=' :: rest =>
          match ← readParam? fuel (skipBlanks rest) with
          | some (param, after) => pure (some ((name, param), after))
          | none => pure none
        | _ => pure none
      | none => pure none
    match named? with
    | some (entry, after) =>
      let (arguments, rest) ← readArguments fuel after
      return (⟨arguments.params, entry :: arguments.named⟩, rest)
    | none =>
      match ← readParam? fuel start with
      | some (param, after) =>
        let (arguments, rest) ← readArguments fuel after
        return (⟨param :: arguments.params, arguments.named⟩, rest)
      | none => return (⟨[], []⟩, text)

/-- Reads a call in parentheses behind the opening one: a name with arguments, or a path that names
a helper. -/
def readInnerCall? : Nat → List Char → Except SyntaxError (Option (Call × List Char))
  | 0, _ => .ok none
  | fuel + 1, text => do
    let closed (call : Call) (rest : List Char) : Option (Call × List Char) :=
      match skipBlanks rest with
      | ')' :: after => some (call, after)
      | _ => none
    let withArguments? ← match readName? text with
      | some (name, afterName) =>
        let (arguments, rest) ← readArguments fuel afterName
        if arguments.params.isEmpty && arguments.named.isEmpty then pure none
        else pure (some ((⟨name, arguments.params, arguments.named⟩ : Call), rest))
      | none => pure none
    match withArguments? with
    | some (call, rest) => return closed call rest
    | none => return (readPath? text).bind fun (path, rest) => closed ⟨path.text, [], []⟩ rest

end

def callBound (text : List Char) : Nat := 2 * text.length + 2

def readSource? (text : List Char) : Except SyntaxError (Option (Param × List Char)) :=
  match readPath? text, text with
  | some (path, rest), _ => .ok (some (.path path, rest))
  | none, '(' :: _ => readParam? (callBound text) text
  | none, _ => .ok none

def readExpression? (text : List Char) : Except SyntaxError (Option (Element × List Char)) := do
  let call? ← match readName? text with
    | some (name, afterName) =>
      let (arguments, rest) ← readArguments (callBound text) afterName
      if arguments.params.isEmpty && arguments.named.isEmpty then pure none
      else pure (some (Element.call ⟨name, arguments.params, arguments.named⟩, rest))
    | none => pure none
  match call? with
  | some call => return some call
  | none => return (← readSource? text).map fun (source, rest) => (.output source, rest)

def readVariables? (text : List Char) : Option (List String × List Char) := do
  let afterWord ← Split.dropWord? ['a', 's'] text
  let afterBar ← Split.dropWord? ['|'] (skipBlanks afterWord)
  let (first, rest) ← readName? (skipBlanks afterBar)
  match skipBlanks rest with
  | '|' :: after => some ([first], after)
  | other =>
    let (second, rest) ← readName? other
    let after ← Split.dropWord? ['|'] (skipBlanks rest)
    some ([first, second], after)

def readHead? (text : List Char) :
    Except SyntaxError (Option ((Call × List String) × List Char)) := do
  match readName? text with
  | none => return none
  | some (name, afterName) =>
    let (arguments, rest) ← readArguments (callBound text) afterName
    let call : Call := ⟨name, arguments.params, arguments.named⟩
    match readVariables? (skipBlanks rest) with
    | some (binders, after) => return some ((call, binders), after)
    | none => return some ((call, []), rest)

/-! ## Tags -/

def Param.spelled : Param → String
  | .literal (.string name) => name
  | .path target => target.text
  | _ => ""

inductive Head where
  | helper (call : Call) (binders : List String)
  | inclusion (name : Param) (arguments : Arguments)
  | directive (call : Call)

inductive Tag where
  | comment
  | expression (element : Element)
  | inclusion (name : Param) (arguments : Arguments) (indent : String)
  | directive (call : Call)
  | opening (head : Head)
  | chain (call : Call) (binders : List String)
  | otherwise
  | closing (name : String)
  | raw (call : Call) (binders : List String)

structure TagRead where
  tag : Tag
  trimBefore : Bool := false
  trimAfter : Bool := false
  rest : List Char

def readTilde (text : List Char) : Bool × List Char :=
  match skipBlanks text with
  | '~' :: rest => (true, skipBlanks rest)
  | rest => (false, rest)

def endTag? (braces : String) (trimBefore : Bool) (tag : Tag) (text : List Char) :
    Option TagRead :=
  let (trimAfter, rest) := readTilde text
  (Split.dropWord? braces.toList rest).map fun rest => { tag, trimBefore, trimAfter, rest }

def closingBraces : String := "\x7d\x7d"

def isPartialChar (c : Char) : Bool :=
  c.isAlphanum || c == '_' || c == '/' || c == '.' || c == '-' || '\x7F' < c

def afterQuote? : List Char → Option (List Char)
  | [] => none
  | '\\' :: '\'' :: rest => afterQuote? rest
  | c :: rest => if c = '\'' then some rest else afterQuote? rest

/-- A name between single quotes, which are a part of it, and what follows. -/
def quotedName? (text : List Char) : Option (List Char × List Char) :=
  match text with
  | '\'' :: '\'' :: _ => none
  | '\'' :: rest =>
    (afterQuote? rest).map fun after => (text.take (text.length - after.length), after)
  | _ => none

def readPartialName? (text : List Char) : Except SyntaxError (Option (Param × List Char)) :=
  match text.takeWhile isPartialChar, quotedName? text with
  | [], none => readSource? text
  | [], some (name, rest) => .ok (some (.literal (.string (String.ofList name)), rest))
  | name, _ =>
    .ok (some (.literal (.string (String.ofList name)), text.dropWhile isPartialChar))

def readAlternative? (text : List Char) : Except SyntaxError (Option TagRead) := do
  let (trim, body) := readTilde text
  let afterWord? := (Split.dropWord? "else".toList body).or (Split.dropWord? ['^'] body)
  match afterWord? with
  | none => return none
  | some rest =>
    match endTag? closingBraces trim .otherwise rest with
    | some read => return some read
    | none =>
      match ← readHead? (skipBlanks rest) with
      | some ((call, binders), after) =>
        return endTag? closingBraces trim (.chain call binders) after
      | none => return none

def readOpening? (trim : Bool) (text : List Char) : Except SyntaxError (Option TagRead) := do
  match skipBlanks text with
  | '*' :: rest =>
    match ← readHead? (skipBlanks rest) with
    | some ((call, _), after) =>
      return endTag? closingBraces trim (.opening (.directive call)) after
    | none => return none
  | '>' :: rest =>
    match ← readPartialName? (skipBlanks rest) with
    | some (name, afterName) =>
      let (arguments, after) ← readArguments (callBound rest) afterName
      return endTag? closingBraces trim (.opening (.inclusion name arguments)) after
    | none => return none
  | rest =>
    match ← readHead? rest with
    | some ((call, binders), after) =>
      return endTag? closingBraces trim (.opening (.helper call binders)) after
    | none => return none

def readClosedExpression? (braces : String) (trim : Bool) (text : List Char) :
    Except SyntaxError (Option TagRead) := do
  match ← readExpression? (skipBlanks text) with
  | some (element, rest) => return endTag? braces trim (.expression element) rest
  | none => return none

def readPlainTag? (text : List Char) : Except SyntaxError (Option TagRead) := do
  let (trim, body) := readTilde text
  match body with
  | '#' :: rest => readOpening? trim rest
  | '/' :: rest =>
    let start := skipBlanks rest
    let isEndChar (c : Char) : Bool := isNameChar c || isPartialChar c
    match start.takeWhile isEndChar with
    | [] =>
      match ← readPartialName? start with
      | some (name, after) => return endTag? closingBraces trim (.closing name.spelled) after
      | none => return endTag? closingBraces trim (.closing "") start
    | name =>
      return endTag? closingBraces trim (.closing (String.ofList name))
        (start.dropWhile isEndChar)
  | '*' :: rest =>
    match ← readHead? (skipBlanks rest) with
    | some ((call, _), after) => return endTag? closingBraces trim (.directive call) after
    | none => return none
  | '>' :: rest =>
    match ← readPartialName? (skipBlanks rest) with
    | some (name, afterName) =>
      let (arguments, after) ← readArguments (callBound rest) afterName
      return endTag? closingBraces trim (.inclusion name arguments "") after
    | none => return none
  | '&' :: rest =>
    match ← readSource? (skipBlanks rest) with
    | some (source, after) => return endTag? closingBraces trim (.expression (.output source)) after
    | none => return none
  | _ => readClosedExpression? closingBraces trim body

def readTripleTag? (text : List Char) : Except SyntaxError (Option TagRead) := do
  let legacy? ← match text with
    | '\x7b' :: rest =>
      let (trim, body) := readTilde rest
      readClosedExpression? "\x7d\x7d\x7d" trim body
    | _ => pure none
  match legacy?, readTilde text with
  | some read, _ => return some read
  | none, (trim, '\x7b' :: rest) =>
    match ← readExpression? (skipBlanks rest) with
    | some (element, after) =>
      return (Split.dropWord? ['\x7d'] (skipBlanks after)).bind
        (endTag? closingBraces trim (.expression element))
    | none => return none
  | none, _ => return none

def readRawTag? (text : List Char) : Except SyntaxError (Option TagRead) := do
  match text with
  | '\x7b' :: '\x7b' :: rest =>
    let (trim, body) := readTilde rest
    match ← readHead? body with
    | some ((call, binders), after) =>
      return endTag? "\x7d\x7d\x7d\x7d" trim (.raw call binders) after
    | none => return none
  | _ => return none

def readComment? (text : List Char) : Option TagRead :=
  let long? := (Split.dropWord? ['-', '-'] (skipBlanks text)).bind
    (Split.atWord? ['-', '-', '\x7d', '\x7d'])
  (long?.or (Split.atWord? ['\x7d', '\x7d'] text)).map fun (_, rest) =>
    { tag := .comment, rest }

def readTag (text : List Char) : Except SyntaxError TagRead := do
  match text with
  | '!' :: rest =>
    match readComment? rest with
    | some read => return read
    | none => throw .malformedTag
  | _ =>
    match ← readAlternative? text with
    | some read => return read
    | none =>
      match ← readPlainTag? text with
      | some read => return read
      | none =>
        match ← readTripleTag? text with
        | some read => return read
        | none =>
          match ← readRawTag? text with
          | some read => return read
          | none => throw .malformedTag

end ApiMock.Template
