import ApiMock.Pattern.NamedClass

/-!
# Occurrence of a regular expression

Matching works on sets of positions of the text. A position is a number from zero to the length of
the text, and a set of positions is a number with one bit for each. An expression maps the positions
where a match may start to those where it may end, so no search ever backtracks, and an expression
occurs in a text when the positions of the whole text lead anywhere.
-/

set_option autoImplicit false

namespace ApiMock.Pattern

abbrev Positions := Nat

def positionsOf {α : Type} (test : α → Bool) (places : List α) : Positions :=
  places.foldr (fun place rest => rest * 2 + (if test place then 1 else 0)) 0

/-- The surroundings of each position of a text: the two characters in front of it, nearest first,
and the two behind it. -/
structure Place where
  before : Option Char
  secondBefore : Option Char
  after : Option Char
  secondAfter : Option Char

def placesFrom (secondBefore before : Option Char) : List Char → List Place
  | [] => [⟨before, secondBefore, none, none⟩]
  | c :: rest => ⟨before, secondBefore, some c, rest.head?⟩ :: placesFrom before (some c) rest

def isWordChar (ascii : Bool) : Option Char → Bool
  | some c => (if ascii then NamedClass.asciiWord else NamedClass.word).contains c
  | none => false

def Assertion.holds (place : Place) : Assertion → Bool
  | startOfText => place.before.isNone
  | endOfText => place.after.isNone
  | startOfLine false => place.before.isNone || place.before == some '\n'
  | startOfLine true =>
    place.before.isNone || place.before == some '\n' ||
      (place.before == some '\r' && place.after != some '\n')
  | endOfLine false => place.after.isNone || place.after == some '\n'
  | endOfLine true =>
    place.after.isNone || place.after == some '\r' ||
      (place.after == some '\n' && place.before != some '\r')
  | wordBoundary ascii => isWordChar ascii place.before != isWordChar ascii place.after
  | noWordBoundary ascii => isWordChar ascii place.before == isWordChar ascii place.after
  | wordStart ascii => !isWordChar ascii place.before && isWordChar ascii place.after
  | wordEnd ascii => isWordChar ascii place.before && !isWordChar ascii place.after
  | wordStartHalf ascii => !isWordChar ascii place.before
  | wordEndHalf ascii => !isWordChar ascii place.after

/-- An expression read against one text: sets of characters and assertions have become the sets of
positions where they hold. -/
inductive Track where
  | stay
  | advance (allowed : Positions)
  | hold (allowed : Positions)
  | concat (first second : Track)
  | alternation (first second : Track)
  | repetition (body : Track) (least : Nat) (most : Option Nat)

def Regex.track (places : List Place) : Regex → Track
  | empty => .stay
  | set characters =>
    .advance (positionsOf (fun place => (place.after.map characters.contains).getD false) places)
  | assertion condition => .hold (positionsOf condition.holds places)
  | concat first second => .concat (first.track places) (second.track places)
  | alternation first second => .alternation (first.track places) (second.track places)
  | repetition body least most => .repetition (body.track places) least most

def iterate (step : Positions → Positions) : Nat → Positions → Positions
  | 0, positions => positions
  | count + 1, positions => iterate step count (step positions)

def gather (step : Positions → Positions) : Nat → Positions → Positions
  | 0, positions => positions
  | count + 1, positions =>
    let more := positions ||| step positions
    if more = positions then positions else gather step count more

/-- The positions that a match may end at when it starts at one of the given ones. Of a text with
`size` positions no more than `size` copies of a repetition need a look: a longer chain of copies
stays somewhere in place, and so can be made longer or shorter. -/
def Track.ends (size : Nat) : Track → Positions → Positions
  | stay, positions => positions
  | advance allowed, positions => (positions &&& allowed) * 2
  | hold allowed, positions => positions &&& allowed
  | concat first second, positions => second.ends size (first.ends size positions)
  | alternation first second, positions =>
    first.ends size positions ||| second.ends size positions
  | repetition body least most, positions =>
    let extra := match most with
      | some most => min (most - least) size
      | none => size
    gather (body.ends size) extra (iterate (body.ends size) (min least size) positions)

def Regex.occursIn (regex : Regex) (text : String) : Bool :=
  let places := placesFrom none none text.toList
  let all := positionsOf (fun _ => true) places
  (regex.track places).ends places.length all != 0

end ApiMock.Pattern
