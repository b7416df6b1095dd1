import ApiMock.Text.CaseMapping
import ApiMock.Text.Property
import ApiMock.Text.Recent

/-!
# Upper case, lower case and case folding

Case conversion of texts, and the sets of characters that are equal up to case. Only one mapping
depends on the context: a capital sigma at the end of a word becomes a final sigma.
-/

set_option autoImplicit false

namespace ApiMock.Case

def upper (c : Char) : List Char :=
  match CaseMapping.upperExpansions.lookup c with
  | some expansion => expansion
  | none => [ShiftRun.apply CaseMapping.upperRuns c]

def lower (c : Char) : List Char :=
  match CaseMapping.lowerExpansions.lookup c with
  | some expansion => expansion
  | none => [ShiftRun.apply CaseMapping.lowerRuns c]

/-- Whether a character has a case. One letter has lost it by now. -/
def isCased (c : Char) : Bool :=
  (Property.cased.contains c && c != '\u0295') || Recent.cased.contains c

def isIgnorable (c : Char) : Bool :=
  Property.caseIgnorable.contains c || Recent.caseIgnorable.contains c

def meetsCased (characters : List Char) : Bool :=
  match characters.dropWhile isIgnorable with
  | c :: _ => isCased c
  | [] => false

def toUpper (text : String) : String := String.ofList (text.toList.flatMap upper)

/-- Lower-cases characters with those in front of them, nearest first. A capital sigma behind a
cased character and before none is final. -/
def lowerWithContext (before : List Char) : List Char → List Char
  | [] => []
  | c :: rest =>
    let image :=
      if c = 'Σ' then (if meetsCased before && !meetsCased rest then ['ς'] else ['σ'])
      else lower c
    image ++ lowerWithContext (c :: before) rest

def toLower (text : String) : String := String.ofList (lowerWithContext [] text.toList)

def foldings : List (Nat × Nat) :=
  CaseMapping.foldRuns.flatMap fun run =>
    (List.range run.count).map fun position =>
      let code := run.first + position * run.stride
      (code, ((code : Int) + run.distance).toNat)

def orbit (c : Char) : List Char :=
  let folded := ShiftRun.apply CaseMapping.foldRuns c
  folded :: ShiftRun.preimage CaseMapping.foldRuns folded

def asciiLower (c : Char) : Char :=
  if 'A' ≤ c ∧ c ≤ 'Z' then Char.ofNat (c.toNat + 32) else c

def toAsciiLower (text : String) : String := String.ofList (text.toList.map asciiLower)

def asciiEqual (a b : String) : Bool := a.toList.map asciiLower == b.toList.map asciiLower

end ApiMock.Case
