import ApiMock.Text.Case
import ApiMock.Text.CharTable

/-!
# Regular expressions

What a regular expression is made of: sets of characters, assertions about a position, and the
usual combinations. Greediness and groups have left no trace, since the only question asked of an
expression is whether it occurs in a text.
-/

set_option autoImplicit false

namespace ApiMock.Pattern

inductive CharSet where
  | range (first last : Char)
  | table (table : CharTable)
  | union (left right : CharSet)
  | inter (left right : CharSet)
  | diff (left right : CharSet)
  | symmDiff (left right : CharSet)
  | complement (set : CharSet)
  | folded (set : CharSet)
  | asciiFolded (set : CharSet)

namespace CharSet

def single (c : Char) : CharSet := range c c

def empty : CharSet := range '\x01' '\x00'

def all : CharSet := complement empty

def ascii : CharSet := range '\x00' '\x7F'

def unions : List CharSet → CharSet
  | [] => empty
  | [set] => set
  | set :: rest => union set (unions rest)

def swapAscii (c : Char) : Char :=
  if 'a' ≤ c ∧ c ≤ 'z' then Char.ofNat (c.toNat - 32) else Case.asciiLower c

def contains : CharSet → Char → Bool
  | range first last, c => first ≤ c && c ≤ last
  | table t, c => t.contains c
  | union left right, c => left.contains c || right.contains c
  | inter left right, c => left.contains c && right.contains c
  | diff left right, c => left.contains c && !right.contains c
  | symmDiff left right, c => left.contains c != right.contains c
  | complement set, c => !set.contains c
  | folded set, c => (Case.orbit c).any set.contains
  | asciiFolded set, c => set.contains c || set.contains (swapAscii c)

end CharSet

/-- A condition on a position between two characters. Word conditions know the letters of all
scripts or those of ASCII. -/
inductive Assertion where
  | startOfText
  | endOfText
  | startOfLine (carriageReturns : Bool)
  | endOfLine (carriageReturns : Bool)
  | wordBoundary (ascii : Bool)
  | noWordBoundary (ascii : Bool)
  | wordStart (ascii : Bool)
  | wordEnd (ascii : Bool)
  | wordStartHalf (ascii : Bool)
  | wordEndHalf (ascii : Bool)

inductive Regex where
  | empty
  | set (set : CharSet)
  | assertion (condition : Assertion)
  | concat (first second : Regex)
  | alternation (first second : Regex)
  | repetition (body : Regex) (least : Nat) (most : Option Nat)

inductive Fault where
  | unclosedGroup
  | unopenedGroup
  | unclosedClass
  | malformedGroupName
  | duplicateGroupName (name : String)
  | malformedFlags
  | lookAround
  | nothingToRepeat
  | malformedRepetition
  | malformedEscape
  | backReference
  | malformedClass
  | unknownClass (name : String)
  | notUtf8
  | tooDeep
  | tooLarge
deriving DecidableEq

end ApiMock.Pattern
