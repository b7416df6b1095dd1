import ApiMock.Yaml.Fault

/-!
# Places in a YAML text

A cursor is what remains of a text together with the line, the column and the index of its first
character. Several sequences of characters end a line.
-/

set_option autoImplicit false

namespace ApiMock.Yaml

def isAllowed (c : Char) : Bool :=
  c == '\t' || c == '\n' || c == '\r' || (' ' ≤ c && c ≤ '~') || c == '\u0085' ||
    ('\u00A0' ≤ c && c ≤ '\uFFFD') || '\uFFFF' < c

def isBlank (c : Char) : Bool := c == ' ' || c == '\t'

def isBreak (c : Char) : Bool :=
  c == '\n' || c == '\r' || c == '\u0085' || c == '\u2028' || c == '\u2029'

def isWordChar (c : Char) : Bool := c.isAlphanum || c == '-' || c == '_'

structure Cursor where
  rest : List Char
  line : Nat := 0
  column : Nat := 0
  index : Nat := 0

namespace Cursor

def head? (cursor : Cursor) : Option Char := cursor.rest.head?

def second? (cursor : Cursor) : Option Char := cursor.rest.tail.head?

def separates (c : Option Char) : Bool := (c.map fun c => isBlank c || isBreak c).getD true

def skip (cursor : Cursor) (count : Nat) : Cursor :=
  { cursor with
    rest := cursor.rest.drop count
    column := cursor.column + count
    index := cursor.index + count }

/-- The cursor behind a byte order mark, if one begins the line. It takes a column. -/
def skipByteOrderMark (cursor : Cursor) : Cursor :=
  if cursor.column = 0 ∧ cursor.head? = some '\uFEFF' then cursor.skip 1 else cursor

def takeWhile (cursor : Cursor) (kind : Char → Bool) : List Char × Cursor :=
  let taken := cursor.rest.takeWhile kind
  (taken, cursor.skip taken.length)

def nextLine (cursor : Cursor) (count : Nat) : Cursor where
  rest := cursor.rest.drop count
  line := cursor.line + 1
  column := 0
  index := cursor.index + count

/-- Reads the end of a line, if the cursor is there. Most of them count as a newline. -/
def takeBreak (cursor : Cursor) : List Char × Cursor :=
  match cursor.rest with
  | '\r' :: '\n' :: _ => (['\n'], cursor.nextLine 2)
  | c :: _ =>
    if c = '\n' ∨ c = '\r' ∨ c = '\u0085' then (['\n'], cursor.nextLine 1)
    else if isBreak c then ([c], cursor.nextLine 1)
    else ([], cursor)
  | [] => ([], cursor)

def skipComment? (cursor : Cursor) : Option Cursor :=
  let (_, cursor) := cursor.takeWhile isBlank
  let cursor := if cursor.head? = some '#' then (cursor.takeWhile (!isBreak ·)).2 else cursor
  match cursor.head? with
  | none => some cursor
  | some c => if isBreak c then some cursor.takeBreak.2 else none

def isAtMark (cursor : Cursor) (c : Char) : Bool :=
  cursor.column == 0 && cursor.rest.take 3 == [c, c, c] && separates (cursor.rest.drop 3).head?

def isAtDocument (cursor : Cursor) : Bool := cursor.isAtMark '-' || cursor.isAtMark '.'

end Cursor

end ApiMock.Yaml
