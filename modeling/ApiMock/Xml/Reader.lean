import ApiMock.Text.Percent
import ApiMock.Text.Split
import ApiMock.Xml.Element
import ApiMock.Xml.SyntaxError

/-!
# Reading XML

A reader of XML with namespaces. Texts and attribute values are kept as they are but for
references, and document types are skipped. The readers of elements and of their contents call each
other, with a bound on the number of calls that the length of the text provides.
-/

set_option autoImplicit false

namespace ApiMock.Xml

/-! ## Blanks, names and references -/

def isBlank (c : Char) : Bool := c == ' ' || c == '\t' || c == '\n' || c == '\r'

def skipBlanks (text : List Char) : List Char := text.dropWhile isBlank

def isNameStart (c : Char) : Bool :=
  c.isAlpha || c == '_' ||
    [(0xC0, 0xD6), (0xD8, 0xF6), (0xF8, 0x2FF), (0x370, 0x37D), (0x37F, 0x1FFF), (0x200C, 0x200D),
      (0x2070, 0x218F), (0x2C00, 0x2FEF), (0x3001, 0xD7FF), (0xF900, 0xFDCF), (0xFDF0, 0xFFFD),
      (0x10000, 0xEFFFF)].any fun (first, last) => first ≤ c.toNat && c.toNat ≤ last

def isNameChar (c : Char) : Bool :=
  isNameStart c || c.isDigit || c == '-' || c == '.' || c.toNat == 0xB7 ||
    (0x300 ≤ c.toNat && c.toNat ≤ 0x36F) || (0x203F ≤ c.toNat && c.toNat ≤ 0x2040)

def readPlainName : List Char → Except SyntaxError (String × List Char)
  | [] => .error .unexpectedEnd
  | c :: rest =>
    if isNameStart c then
      .ok (String.ofList (c :: rest.takeWhile isNameChar), rest.dropWhile isNameChar)
    else .error .malformedName

structure Tag where
  space : Option String
  localName : String
deriving DecidableEq

def Tag.text (tag : Tag) : String :=
  match tag.space with
  | some space => space ++ ":" ++ tag.localName
  | none => tag.localName

def readTag (text : List Char) : Except SyntaxError (Tag × List Char) :=
  match readPlainName text with
  | .error fault => .error fault
  | .ok (first, ':' :: rest) =>
    match readPlainName rest with
    | .ok (second, after) => .ok (⟨some first, second⟩, after)
    | .error fault => .error fault
  | .ok (first, rest) => .ok (⟨none, first⟩, rest)

def readReference (text : List Char) : Except SyntaxError (Char × List Char) :=
  let ofDigits (base : Nat) (digits : List Char) : Except SyntaxError Char :=
    match digits.mapM hexDigit? with
    | some values =>
      let code := values.foldl (fun code digit => code * base + digit) 0
      if !digits.isEmpty && values.all (· < base) && Nat.isValidChar code then
        .ok (Char.ofNat code)
      else .error .malformedReference
    | none => .error .malformedReference
  let ofName (name : List Char) : Except SyntaxError Char :=
    match String.ofList name with
    | "amp" => .ok '&'
    | "lt" => .ok '<'
    | "gt" => .ok '>'
    | "quot" => .ok '"'
    | "apos" => .ok '\''
    | name => .error (.unknownReference name)
  match Split.atFirst ';' text with
  | (_, none) => .error .malformedReference
  | (name, some rest) => do
    let c ← match name with
      | '#' :: 'x' :: digits => ofDigits 16 digits
      | '#' :: digits => ofDigits 10 digits
      | name => ofName name
    return (c, rest)

/-! ## Attributes and namespaces -/

def readQuoted (quote : Char) :
    Nat → List Char → List Char → Except SyntaxError (String × List Char)
  | 0, _, _ => .error .unexpectedEnd
  | fuel + 1, read, text =>
    match text with
    | [] => .error .unexpectedEnd
    | '&' :: rest =>
      match readReference rest with
      | .ok (c, after) => readQuoted quote fuel (c :: read) after
      | .error fault => .error fault
    | c :: rest =>
      if c = quote then .ok (String.ofList read.reverse, rest)
      else if c = '<' then .error (.unexpected c)
      else readQuoted quote fuel (c :: read) rest

def readValue (text : List Char) : Except SyntaxError (String × List Char) :=
  match skipBlanks text with
  | '=' :: rest =>
    match skipBlanks rest with
    | '"' :: after => readQuoted '"' (after.length + 1) [] after
    | '\'' :: after => readQuoted '\'' (after.length + 1) [] after
    | c :: _ => .error (.unexpected c)
    | [] => .error .unexpectedEnd
  | c :: _ => .error (.unexpected c)
  | [] => .error .unexpectedEnd

def readAttributes : Nat → List Char → Except SyntaxError (List (Tag × String) × List Char)
  | 0, _ => .error .unexpectedEnd
  | fuel + 1, text =>
    match skipBlanks text with
    | [] => .error .unexpectedEnd
    | c :: rest =>
      if c = '>' ∨ c = '/' then .ok ([], c :: rest)
      else if !(text.head?.map isBlank).getD false then .error (.unexpected c)
      else do
        let (tag, afterTag) ← readTag (c :: rest)
        let (value, afterValue) ← readValue afterTag
        let (attributes, after) ← readAttributes fuel afterValue
        return ((tag, value) :: attributes, after)

/-- The namespaces in force: that of names without an abbreviation, empty if there is none, and
those of the abbreviations, innermost first. -/
structure Scope where
  default : String
  spaces : List (String × String)

namespace Scope

def outside : Scope := ⟨"", []⟩

def common : String × String := ("xml", "http://www.w3.org/XML/1998/namespace")

def withCommon (scope : Scope) : Scope :=
  if (scope.spaces.lookup common.fst).isSome then scope
  else { scope with spaces := scope.spaces ++ [common] }

/-- The abbreviation of the attributes that declare namespaces, and the local name of the ones that
declare the default. -/
def declaration : String := "xmlns"

def declaresSpace (tag : Tag) : Bool := tag.space == some declaration

def declaresDefault (tag : Tag) : Bool := !declaresSpace tag && tag.localName == declaration

def declare (scope : Scope) : List (Tag × String) → Except SyntaxError Scope
  | [] => .ok scope
  | (tag, value) :: rest =>
    if !declaresSpace tag then declare scope rest
    else if value = "" then .error (.emptyNamespace tag.localName)
    else declare { scope with spaces := (tag.localName, value) :: scope.spaces } rest

def declaredDefault? (attributes : List (Tag × String)) : Except SyntaxError (Option String) :=
  match attributes.filter fun (tag, _) => declaresDefault tag with
  | [] => .ok none
  | [(_, value)] => .ok (some value)
  | _ :: (tag, _) :: _ => .error (.duplicateAttribute tag.text)

def resolve (scope : Scope) (default : String) (tag : Tag) : Except SyntaxError Name :=
  match tag.space with
  | none => .ok ⟨default, tag.localName⟩
  | some abbreviation =>
    match scope.spaces.lookup abbreviation with
    | some space => .ok ⟨space, tag.localName⟩
    | none => .error (.undeclaredPrefix abbreviation)

def resolveAll (scope : Scope) : List (Tag × String) → Except SyntaxError (List (Name × String))
  | [] => .ok []
  | (tag, value) :: rest =>
    if declaresSpace tag || declaresDefault tag then resolveAll scope rest
    else do
      -- The default is for elements only.
      let name ← scope.resolve "" tag
      let attributes ← resolveAll scope rest
      return ((name, value) :: attributes)

/-- The scope inside of an element. A default counts from an element on whose own name has no
abbreviation; one of nothing is for the name of its element only. -/
def inside (scope : Scope) (tag : Tag) (default? : Option String) : Scope :=
  match tag.space, default? with
  | none, some default => if default = "" then scope else { scope with default := default }
  | _, _ => scope

end Scope

def duplicate? : List (Tag × String) → Option Tag
  | [] => none
  | (tag, _) :: rest => if (rest.lookup tag).isSome then some tag else duplicate? rest

/-! ## Content -/

def readUntil (word : List Char) (text : List Char) : Except SyntaxError (String × List Char) :=
  match Split.atWord? word text with
  | some (before, after) => .ok (String.ofList before, after)
  | none => .error .unexpectedEnd

def readComment (text : List Char) : Except SyntaxError (Node × List Char) := do
  match ← readUntil ['-', '-'] text with
  | (content, '>' :: rest) => return (.comment content, rest)
  | _ => throw .malformedComment

def readInstruction (text : List Char) : Except SyntaxError (Node × List Char) := do
  let isTargetChar (c : Char) : Bool := isNameChar c || c == ':'
  match text with
  | [] => throw .unexpectedEnd
  | c :: _ =>
    if !(isNameStart c || c == ':') then throw .malformedName
    let target := String.ofList (text.takeWhile isTargetChar)
    if target.toList.map Char.toLower = "xml".toList then throw .reservedTarget
    match text.dropWhile isTargetChar with
    | '?' :: '>' :: rest => return (.instruction target "", rest)
    | d :: rest =>
      if !isBlank d then throw (.unexpected d)
      let (content, after) ← readUntil ['?', '>'] (skipBlanks rest)
      return (.instruction target content, after)
    | [] => throw .unexpectedEnd

def readCharacters (read : List Char) : List Char → Except SyntaxError (Node × List Char)
  | [] => .ok (.text (String.ofList read.reverse), [])
  -- The end of a literal section cannot stand in other text.
  | ']' :: ']' :: '>' :: _ => .error (.unexpected ']')
  | c :: rest =>
    if c = '<' ∨ c = '&' then .ok (.text (String.ofList read.reverse), c :: rest)
    else readCharacters (c :: read) rest

def readAside? (text : List Char) : Option (Except SyntaxError (Node × List Char)) :=
  match text with
  | '<' :: '!' :: '-' :: '-' :: rest => some (readComment rest)
  | '<' :: '?' :: rest => some (readInstruction rest)
  | _ => none

mutual

def readElement : Nat → Scope → List Char → Except SyntaxError (Element × List Char)
  | 0, _, _ => .error .unexpectedEnd
  | fuel + 1, scope, text => do
    let (tag, afterTag) ← readTag text
    let (written, afterAttributes) ← readAttributes (afterTag.length + 1) afterTag
    if let some repeated := duplicate? written then throw (.duplicateAttribute repeated.text)
    let default? ← Scope.declaredDefault? written
    let declared ← scope.declare written
    let name ← declared.resolve (default?.getD scope.default) tag
    let scope := declared.withCommon.inside tag default?
    let attributes ← scope.resolveAll written
    match afterAttributes with
    | '/' :: '>' :: rest => return (⟨name, attributes, []⟩, rest)
    | '>' :: inside =>
      let (children, afterChildren) ← readContent fuel scope inside
      let (closing, afterClosing) ← readTag afterChildren
      if closing ≠ tag then throw (.mismatchedEndTag tag.text)
      match skipBlanks afterClosing with
      | '>' :: rest => return (⟨name, attributes, children⟩, rest)
      | c :: _ => throw (.unexpected c)
      | [] => throw .unexpectedEnd
    | _ => throw (.unexpected '/')

def readContent : Nat → Scope → List Char → Except SyntaxError (List Node × List Char)
  | 0, _, _ => .error .unexpectedEnd
  | fuel + 1, scope, text => do
    let followedBy (node : Node) (rest : List Char) :
        Except SyntaxError (List Node × List Char) := do
      let (nodes, after) ← readContent fuel scope rest
      return (node :: nodes, after)
    match text with
    | [] => throw .unexpectedEnd
    | '<' :: '/' :: rest => return ([], rest)
    | '&' :: rest =>
      let (c, after) ← readReference rest
      followedBy (.text c.toString) after
    | '<' :: rest =>
      match readAside? ('<' :: rest), Split.dropWord? "![CDATA[".toList rest with
      | some aside, _ =>
        let (node, after) ← aside
        followedBy node after
      | none, some literal =>
        let (content, after) ← readUntil [']', ']', '>'] literal
        followedBy (.text content) after
      | none, none =>
        let (element, after) ← readElement fuel scope rest
        followedBy (.element element) after
    | c :: rest =>
      let (node, after) ← readCharacters [] (c :: rest)
      followedBy node after

end

/-! ## Documents -/

def skipAsides : Nat → List Char → Except SyntaxError (List Char)
  | 0, text => .ok text
  | fuel + 1, text =>
    match readAside? (skipBlanks text) with
    | some (.ok (_, after)) => skipAsides fuel after
    | some (.error fault) => .error fault
    | none => .ok (skipBlanks text)

def skipExternal? (text : List Char) : Option (List Char) := do
  let isPlaceChar (quote c : Char) : Bool := c != quote && c != '<' && c != '&'
  if !(text.head?.map isBlank).getD false then none
  let rest ← Split.dropWord? "SYSTEM".toList (skipBlanks text)
  if !(rest.head?.map isBlank).getD false then none
  match skipBlanks rest with
  | quote :: place =>
    if quote ≠ '"' ∧ quote ≠ '\'' then none
    match place.takeWhile (isPlaceChar quote), place.dropWhile (isPlaceChar quote) with
    | _ :: _, c :: after => if c = quote then some after else none
    | _, _ => none
  | [] => none

/-- Skips a document type behind its opening: a name, perhaps its place, and perhaps declarations
in brackets, which are not read. -/
def skipDocumentType (text : List Char) : Except SyntaxError (List Char) := do
  let isTypeChar (c : Char) : Bool := isNameChar c || c == ':'
  match text, skipBlanks text with
  | blank :: _, c :: rest =>
    if !isBlank blank then throw (.unexpected blank)
    if !(isNameStart c || c == ':') then throw .malformedName
    let afterName := rest.dropWhile isTypeChar
    let afterPlace := (skipExternal? afterName).getD afterName
    let afterDeclarations ← match skipBlanks afterPlace with
      | '[' :: inside => do
        let (_, after) ← readUntil [']'] inside
        pure after
      | _ => pure afterPlace
    match skipBlanks afterDeclarations with
    | '>' :: after => return after
    | d :: _ => throw (.unexpected d)
    | [] => throw .unexpectedEnd
  | _, _ => throw .unexpectedEnd

def skipProlog : Nat → (start : Bool) → List Char → Except SyntaxError (List Char)
  | 0, _, text => .ok text
  | fuel + 1, start, text => do
    let rest ← skipAsides text.length text
    match Split.dropWord? "<!DOCTYPE".toList rest with
    | some afterWord =>
      -- A document type at the very beginning is not taken for one.
      if start ∧ rest.length = text.length then throw .noElement
      skipProlog fuel false (← skipDocumentType afterWord)
    | none => return rest

def readDeclared? (name : String) (test : List Char → Bool) (text : List Char) :
    Option (List Char) :=
  if (text.head?.map isBlank).getD false then
    (Split.dropWord? name.toList (skipBlanks text)).bind fun rest =>
      match skipBlanks rest with
      | '=' :: afterEquals =>
        match skipBlanks afterEquals with
        | quote :: afterQuote =>
          if quote = '"' ∨ quote = '\'' then
            match Split.atFirst quote afterQuote with
            | (value, some after) => if test value then some after else none
            | (_, none) => none
          else none
        | [] => none
      | _ => none
  else none

def isVersion (text : List Char) : Bool :=
  match text with
  | '1' :: '.' :: minor => !minor.isEmpty && minor.all Char.isDigit
  | _ => false

def isEncodingName (text : List Char) : Bool :=
  match text with
  | c :: rest =>
    c.isAlpha && rest.all fun d => d.isAlphanum || d == '.' || d == '_' || d == '-'
  | [] => false

def skipDeclaration (text : List Char) : Except SyntaxError (List Char) :=
  match Split.dropWord? "<?xml".toList text with
  | none => .ok text
  | some rest =>
    if (rest.head?.map fun c => isNameChar c || c == ':').getD false then .ok text
    else
      match readDeclared? "version" isVersion rest with
      | none => .error .malformedDeclaration
      | some rest =>
        let rest := (readDeclared? "encoding" isEncodingName rest).getD rest
        let isStandalone (value : List Char) : Bool :=
          value == "yes".toList || value == "no".toList
        let rest := (readDeclared? "standalone" isStandalone rest).getD rest
        match skipBlanks rest with
        | '?' :: '>' :: after => .ok after
        | _ => .error .malformedDeclaration

def readDocument (source : String) : Except SyntaxError Element := do
  let text := source.toList
  let afterDeclaration ← skipDeclaration text
  let atStart := afterDeclaration.length == text.length
  match ← skipProlog text.length atStart afterDeclaration with
  | '<' :: rest =>
    let (root, after) ← readElement (rest.length + 1) .outside rest
    match ← skipAsides text.length after with
    | [] => return root
    | _ => throw .trailing
  | _ => throw .noElement

def read (source : String) : Except SyntaxError Value :=
  (readDocument source).map Element.documentValue

end ApiMock.Xml
