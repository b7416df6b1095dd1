import ApiMock.Json.Reader
import ApiMock.JsonPath.Query

/-!
# Reading JSONPath

A reader of queries by recursive descent, which gives none for a text that is no query. Functions
take arguments of the kinds they are declared for, and where a single value is wanted, a query has
to be one that finds at most one node. Readers that call each other share a bound on the number of
calls that the length of the text provides.
-/

set_option autoImplicit false

namespace ApiMock.JsonPath

/-! ## Names and numbers -/

def isNameStart (c : Char) : Bool := c.isAlpha || c == '_' || '\x7F' < c

def isNameChar (c : Char) : Bool := isNameStart c || c.isDigit

def readName? (text : List Char) : Option (String × List Char) :=
  match text with
  | c :: rest =>
    if isNameStart c then
      some (String.ofList (c :: rest.takeWhile isNameChar), rest.dropWhile isNameChar)
    else none
  | [] => none

/-- Reads a name in quotes behind the opening one. Only the quote that encloses the name can be
escaped. What has been read comes in reverse. -/
def readQuoted? (quote : Char) (read : List Char) : List Char → Option (String × List Char)
  | [] => none
  | '\\' :: 'u' :: a :: b :: c :: d :: rest =>
    match Json.codeUnit? a b c d with
    | none => none
    | some unit =>
      if 0xDC00 ≤ unit ∧ unit ≤ 0xDFFF then none
      else if 0xD800 ≤ unit ∧ unit ≤ 0xDBFF then
        -- Of a pair of escapes, the first one has its first digit in upper case.
        if a = 'd' then none
        else match rest with
        | '\\' :: 'u' :: e :: f :: g :: h :: after =>
          match Json.codeUnit? e f g h with
          | none => none
          | some low =>
            if 0xDC00 ≤ low ∧ low ≤ 0xDFFF then
              readQuoted? quote
                (Char.ofNat (0x10000 + (unit - 0xD800) * 0x400 + (low - 0xDC00)) :: read) after
            else none
        | _ => none
      else readQuoted? quote (Char.ofNat unit :: read) rest
  | '\\' :: c :: rest =>
    if c = quote then readQuoted? quote (c :: read) rest
    else if c = '"' then none
    else
      match Json.shortEscape? c with
      | some character => readQuoted? quote (character :: read) rest
      | none => none
  | c :: rest =>
    if c = quote then some (String.ofList read.reverse, rest)
    else if c < ' ' ∨ c = '\\' then none
    else readQuoted? quote (c :: read) rest

def readString? (text : List Char) : Option (String × List Char) :=
  match text with
  | '"' :: rest => readQuoted? '"' [] rest
  | '\'' :: rest => readQuoted? '\'' [] rest
  | _ => none

def fitsIndex (value : Int) : Bool := -0x8000000000000000 ≤ value ∧ value < 0x8000000000000000

def readDigits? (text : List Char) : Option (Nat × List Char) :=
  match text with
  | '0' :: rest => some (0, rest)
  | c :: _ => if c.isDigit then some (Json.plainDigits 0 text) else none
  | [] => none

def readInteger? (text : List Char) : Option (Int × List Char) := do
  let (negative, digits) := match text with
    | '-' :: rest => (true, rest)
    | _ => (false, text)
  let (size, rest) ← readDigits? digits
  let value : Int := if negative then -(size : Int) else size
  -- There is no negative zero.
  if negative ∧ size = 0 ∨ ¬fitsIndex value then none else some (value, rest)

def skipDigits? (text : List Char) : Option (List Char) :=
  if (text.head?.map Char.isDigit).getD false then some (text.dropWhile Char.isDigit) else none

def readNumber? (text : List Char) : Option (Number × List Char) := do
  let (negative, digits) := match text with
    | '-' :: rest => (true, rest)
    | _ => (false, text)
  let (whole, afterWhole) ← readDigits? digits
  let fraction := match afterWhole with
    | '.' :: rest => if (skipDigits? rest).isSome then rest.takeWhile Char.isDigit else []
    | _ => []
  let afterFraction :=
    if fraction.isEmpty then afterWhole else afterWhole.drop (fraction.length + 1)
  let (exponent, rest) : Option Int × List Char := match afterFraction with
    | e :: rest =>
      if e = 'e' ∨ e = 'E' then
        let (minus, digits) := match rest with
          | '-' :: rest => (true, rest)
          | '+' :: rest => (false, rest)
          | _ => (false, rest)
        match skipDigits? digits with
        | some after =>
          let value := (Json.plainDigits 0 digits).1
          (some (if minus then -(value : Int) else value), after)
        | none => (none, afterFraction)
      else (none, afterFraction)
    | [] => (none, [])
  let value : Int := if negative then -(whole : Int) else whole
  match fraction, exponent, Number.ofInt? value with
  | [], none, some number => if negative ∧ whole = 0 then
      some (.double (Double.zero true), rest) else some (number, rest)
  | _, _, _ =>
    let coefficient := (Json.plainDigits whole fraction).1
    let double ← Double.ofDecimal negative coefficient (exponent.getD 0 - (fraction.length : Int))
    some (.double double, rest)

/-! ## Segments, selectors and conditions -/

def readSlice? (text : List Char) : Option (Selector × List Char) := do
  let bound? (text : List Char) : Option Int × List Char :=
    match readInteger? (Json.skipBlanks text) with
    | some (value, rest) => (some value, rest)
    | none => (none, text)
  let (first, afterFirst) := bound? text
  match Json.skipBlanks afterFirst with
  | ':' :: rest =>
    let (last, afterLast) := bound? rest
    match Json.skipBlanks afterLast with
    | ':' :: rest =>
      let (step, after) := bound? rest
      some (.slice first last (step.getD 1), after)
    | _ => some (.slice first last 1, afterLast)
  | _ => none

def readComparator? (text : List Char) : Option (Comparator × List Char) :=
  match text with
  | '=' :: '=' :: rest => some (.equal, rest)
  | '!' :: '=' :: rest => some (.notEqual, rest)
  | '<' :: '=' :: rest => some (.lessOrEqual, rest)
  | '>' :: '=' :: rest => some (.greaterOrEqual, rest)
  | '<' :: rest => some (.less, rest)
  | '>' :: rest => some (.greater, rest)
  | _ => none

def readLiteral? (text : List Char) : Option (Value × List Char) :=
  match readNumber? text, readString? text with
  | some (number, rest), _ => some (.number number, rest)
  | none, some (string, rest) => some (.string string, rest)
  | none, none =>
    let word (value : Value) (letters : String) : Option (Value × List Char) :=
      (Split.dropWord? letters.toList text).map fun rest => (value, rest)
    (word .null "null").or ((word (.bool true) "true").or (word (.bool false) "false"))

def readFunction? (text : List Char) : Option (String × List Char) :=
  let isLower (c : Char) : Bool := 'a' ≤ c && c ≤ 'z'
  match text.takeWhile fun c => isLower c || c.isDigit || c == '_' with
  | c :: name =>
    match text.drop (name.length + 1) with
    | '(' :: rest => if isLower c then some (String.ofList (c :: name), rest) else none
    | _ => none
  | [] => none

def expect? (c : Char) (text : List Char) : Option (List Char) :=
  match Json.skipBlanks text with
  | d :: rest => if d = c then some rest else none
  | [] => none

mutual

/-- Reads segments as long as there are any. Blanks may stand in front of a segment to children. -/
def readSegments? : Nat → List Char → Option (List Segment × List Char)
  | 0, _ => none
  | fuel + 1, text =>
    let followedBy (segment : Segment) (rest : List Char) : Option (List Segment × List Char) :=
      (readSegments? fuel rest).map fun (segments, after) => (segment :: segments, after)
    match text with
    | '.' :: '.' :: '[' :: rest => do
      let (selectors, after) ← readSelectors? fuel rest
      followedBy (.descendant selectors) after
    | '.' :: '.' :: '*' :: rest => followedBy (.descendant [.wildcard]) rest
    | '.' :: '.' :: rest => do
      let (name, after) ← readName? rest
      followedBy (.descendant [.name name]) after
    | _ =>
      match Json.skipBlanks text with
      | '.' :: '.' :: _ => some ([], text)
      | '.' :: '*' :: rest => followedBy (.child [.wildcard]) rest
      | '.' :: rest => do
        let (name, after) ← readName? rest
        followedBy (.child [.name name]) after
      | '[' :: rest => do
        let (selectors, after) ← readSelectors? fuel rest
        followedBy (.child selectors) after
      | _ => some ([], text)

def readSelectors? : Nat → List Char → Option (List Selector × List Char)
  | 0, _ => none
  | fuel + 1, text => do
    let (selector, rest) ← readSelector? fuel (Json.skipBlanks text)
    match Json.skipBlanks rest with
    | ',' :: after =>
      let (selectors, after) ← readSelectors? fuel after
      some (selector :: selectors, after)
    | ']' :: after => some ([selector], after)
    | _ => none

def readSelector? : Nat → List Char → Option (Selector × List Char)
  | 0, _ => none
  | fuel + 1, text =>
    match text with
    | '*' :: rest => some (.wildcard, rest)
    | '?' :: rest =>
      (readCondition? fuel (Json.skipBlanks rest)).map fun (condition, after) =>
        (.filter condition, after)
    | _ =>
      match readSlice? text, readInteger? text, readString? text with
      | some slice, _, _ => some slice
      | none, some (index, rest), _ => some (.index index, rest)
      | none, none, some (name, rest) => some (.name name, rest)
      | none, none, none => none

def readCondition? : Nat → List Char → Option (Condition × List Char)
  | 0, _ => none
  | fuel + 1, text => do
    let (left, rest) ← readConjunction? fuel text
    match Json.skipBlanks rest with
    | '|' :: '|' :: after =>
      let (right, after) ← readCondition? fuel (Json.skipBlanks after)
      some (.any left right, after)
    | _ => some (left, rest)

def readConjunction? : Nat → List Char → Option (Condition × List Char)
  | 0, _ => none
  | fuel + 1, text => do
    let (left, rest) ← readBasic? fuel text
    match Json.skipBlanks rest with
    | '&' :: '&' :: after =>
      let (right, after) ← readConjunction? fuel (Json.skipBlanks after)
      some (.all left right, after)
    | _ => some (left, rest)

def readBasic? : Nat → List Char → Option (Condition × List Char)
  | 0, _ => none
  | fuel + 1, text =>
    match readComparison? fuel text with
    | some comparison => some comparison
    | none => do
      let (negated, text) := match text with
        | '!' :: rest => (true, Json.skipBlanks rest)
        | _ => (false, text)
      let (condition, rest) ← match text with
        | '(' :: rest => do
          let (condition, after) ← readCondition? fuel (Json.skipBlanks rest)
          some (condition, ← expect? ')' after)
        | _ => readTest? fuel text
      some (if negated then .not condition else condition, rest)

def readComparison? : Nat → List Char → Option (Condition × List Char)
  | 0, _ => none
  | fuel + 1, text => do
    let (left, afterLeft) ← readTerm? fuel text
    let (comparator, afterComparator) ← readComparator? (Json.skipBlanks afterLeft)
    let (right, after) ← readTerm? fuel (Json.skipBlanks afterComparator)
    some (.compare left comparator right, after)

def readTest? : Nat → List Char → Option (Condition × List Char)
  | 0, _ => none
  | fuel + 1, text =>
    match readFunction? text with
    | some (name, rest) => do
      let whole ← match name with
        | "match" => some true
        | "search" => some false
        | _ => none
      let (subject, afterSubject) ← readTerm? fuel (Json.skipBlanks rest)
      let (pattern, after) ← readTerm? fuel (Json.skipBlanks (← expect? ',' afterSubject))
      some (.matching whole subject pattern, ← expect? ')' after)
    | none => (readQuery? fuel text).map fun (query, after) => (.exist query, after)

def readTerm? : Nat → List Char → Option (Term × List Char)
  | 0, _ => none
  | fuel + 1, text =>
    match readLiteral? text with
    | some (value, rest) => some (.literal value, rest)
    | none =>
      match readFunction? text with
      | some ("length", rest) => do
        let (term, after) ← readTerm? fuel (Json.skipBlanks rest)
        some (.length term, ← expect? ')' after)
      | some ("count", rest) => do
        let (query, after) ← readQuery? fuel (Json.skipBlanks rest)
        some (.count query, ← expect? ')' after)
      | some ("value", rest) => do
        let (query, after) ← readQuery? fuel (Json.skipBlanks rest)
        some (.only query, ← expect? ')' after)
      | some _ => none
      | none => do
        let (query, rest) ← readQuery? fuel text
        if query.isSingular then some (.first query, rest) else none

def readQuery? : Nat → List Char → Option (Query × List Char)
  | 0, _ => none
  | fuel + 1, text =>
    match text with
    | '$' :: rest =>
      (readSegments? fuel rest).map fun (segments, after) => (⟨true, segments⟩, after)
    | '@' :: rest =>
      (readSegments? fuel rest).map fun (segments, after) => (⟨false, segments⟩, after)
    | _ => none

end

def parse? (source : String) : Option Query :=
  let text := source.toList
  match text, readQuery? (8 * text.length + 8) text with
  | '$' :: _, some (query, []) => some query
  | _, _ => none

end ApiMock.JsonPath
