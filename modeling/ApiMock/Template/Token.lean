import ApiMock.Template.Line
import ApiMock.Template.Tag
import ApiMock.Text.Property

/-!
# Texts and tags in turn

A template is a sequence of texts and tags. A backslash makes opening braces part of a text. Blanks
beside a tag are dropped where the tag has a tilde, and a tag that stands alone on a line takes the
whole line with it.
-/

set_option autoImplicit false

namespace ApiMock.Template

inductive Token where
  | text (content : String)
  | tag (tag : Tag)
  | raw (call : Call) (binders : List String) (content : String)

def openingBraces : List Char := ['\x7b', '\x7b']

def rawBraces : List Char := ['\x7b', '\x7b', '\x7b', '\x7b']

/-- How many characters behind a backslash belong to the text as they are, if the backslash is an
escape: opening braces, or further backslashes in front of opening braces. -/
def escapedBehind? (rest : List Char) : Option Nat :=
  if rawBraces.isPrefixOf rest then some 4
  else if openingBraces.isPrefixOf rest then some 2
  else
    match rest.takeWhile (· = '\\') with
    | [] => none
    | run => if openingBraces.isPrefixOf (rest.dropWhile (· = '\\')) then some run.length else none

/-- The text up to braces that stop it, with its escapes resolved, and what follows. So many
characters at the front belong to the text whatever they are. -/
def takeText (stop : List Char) : Nat → List Char → List Char × List Char
  | _, [] => ([], [])
  | kept + 1, c :: rest =>
    let (text, after) := takeText stop kept rest
    (c :: text, after)
  | 0, c :: rest =>
    if stop.isPrefixOf (c :: rest) then ([], c :: rest)
    else
      match c, escapedBehind? rest with
      | '\\', some kept => takeText stop kept rest
      | _, _ =>
        let (text, after) := takeText stop 0 rest
        (c :: text, after)

def isSpace (c : Char) : Bool := Property.whiteSpace.contains c

def dropTrailing (kind : Char → Bool) (text : List Char) : List Char :=
  (text.reverse.dropWhile kind).reverse

structure Surroundings where
  before : List Char := []
  dropBlanks : Bool := false
  dropLine : Bool := false

def Surroundings.textBehind (state : Surroundings) (content : List Char) : List Char :=
  if state.dropBlanks then content.dropWhile isSpace
  else if state.dropLine then Template.dropLine content
  else content

/-- The text up to the next tag, if there is any, and what follows it. Between two tags there may be
blanks only, which count as no text where they are dropped. -/
def readText (state : Surroundings) (source : List Char) :
    Option (List Char) × Surroundings × List Char :=
  let afterBlanks := skipBlanks source
  let isGap := afterBlanks.isEmpty || openingBraces.isPrefixOf afterBlanks
  let (content, rest) := takeText openingBraces 0 source
  let before := (source.take (source.length - rest.length)).reverse ++ state.before
  if isGap && (source.length == rest.length || state.dropBlanks) then
    (none, { state with before }, rest)
  else
    (some (state.textBehind content), { state with before, dropLine := false }, rest)

/-- Whether a tag takes its line with it if nothing else stands there. Outputs do not. -/
def Tag.ownsLine : Tag → Bool
  | expression _ => false
  | _ => true

def Tag.indented (indent : String) : Tag → Tag
  | inclusion name arguments _ => inclusion name arguments indent
  | tag => tag

def indentOf (before : List Char) : String :=
  String.ofList (before.takeWhile isLineBlank).reverse

def standsAlone (tag : Tag) (before rest : List Char) : Bool :=
  tag.ownsLine && lineBegins before && lineEnds rest

def textBefore (trim alone : Bool) (content : List Char) : List Char :=
  if trim then dropTrailing isSpace content
  else if alone then dropTrailing isLineBlank content
  else content

def Surroundings.after (state : Surroundings) (read : TagRead) (consumed : List Char)
    (alone : Bool) : Surroundings where
  before := consumed.reverse ++ state.before
  dropBlanks := match read.tag with
    | .comment => state.dropBlanks
    | _ => read.trimAfter
  dropLine := if read.tag.ownsLine then alone else state.dropLine

def readRawEnd? (text : List Char) : Option (String × TagRead) := do
  let afterBraces ← Split.dropWord? rawBraces text
  let (trim, body) := readTilde afterBraces
  let afterMark ← Split.dropWord? ['/'] body
  let (name, rest) ← readName? (skipBlanks afterMark)
  let read ← endTag? "\x7d\x7d\x7d\x7d" trim (.closing name) rest
  some (name, read)

def readRawBody (state : Surroundings) (call : Call) (source : List Char) :
    Except SyntaxError (List Char × Surroundings × List Char) := do
  let body := skipBlanks source
  let (content, atEnd) := takeText rawBraces 0 body
  match readRawEnd? atEnd with
  | none => throw (.unclosedBlock call.name)
  | some (name, read) =>
    if name ≠ call.name then throw (.mismatchedEnd call.name name)
    let before := (source.take (source.length - atEnd.length)).reverse ++ state.before
    let alone := standsAlone read.tag before read.rest
    let consumed := atEnd.take (atEnd.length - read.rest.length)
    return (textBefore read.trimBefore alone (state.textBehind content),
      ({ state with before }).after read consumed alone, read.rest)

def scan : Nat → Surroundings → List Char → Except SyntaxError (List Token)
  | 0, _, _ => .ok []
  | fuel + 1, state, source => do
    let (content?, state, atTag) := readText state source
    let texts (trim alone : Bool) : List Token :=
      (content?.map fun content =>
        Token.text (String.ofList (textBefore trim alone content))).toList
    if atTag.isEmpty then return texts false false
    let read ← readTag (atTag.drop openingBraces.length)
    let alone := standsAlone read.tag state.before read.rest
    let consumed := atTag.take (atTag.length - read.rest.length)
    let front := texts read.trimBefore alone
    let indent := if read.trimBefore then "" else indentOf state.before
    let state := state.after read consumed alone
    match read.tag.indented indent with
    | .raw call binders =>
      let (body, state, rest) ← readRawBody state call read.rest
      let tokens ← scan fuel state rest
      return front ++ .raw call binders (String.ofList body) :: tokens
    | tag =>
      let tokens ← scan fuel state read.rest
      return front ++ .tag tag :: tokens

def tokens (source : String) : Except SyntaxError (List Token) :=
  let characters := source.toList
  scan (characters.length + 1) {} characters

end ApiMock.Template
