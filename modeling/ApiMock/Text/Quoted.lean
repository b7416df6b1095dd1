import ApiMock.Text.Category
import ApiMock.Text.Property
import ApiMock.Text.Recent

/-!
# Quoted texts in reports

Lists of texts are shown in brackets, each text in quotation marks with everything escaped that
would not be seen: control characters, blanks other than the space, unassigned code points, and
marks that would attach themselves to the character in front.
-/

set_option autoImplicit false

namespace ApiMock.Quoted

def visibleCategories : List CharTable :=
  [Category.lowercaseLetter, Category.uppercaseLetter, Category.otherLetter, Category.decimalNumber,
   Category.otherPunctuation, Category.dashPunctuation, Category.connectorPunctuation,
   Category.openPunctuation, Category.closePunctuation, Category.initialPunctuation,
   Category.finalPunctuation, Category.mathSymbol, Category.currencySymbol,
   Category.modifierSymbol, Category.otherSymbol, Category.titlecaseLetter,
   Category.modifierLetter, Category.nonspacingMark, Category.spacingMark, Category.enclosingMark,
   Category.letterNumber, Category.otherNumber]

def isVisible (c : Char) : Bool :=
  c == ' ' || ('!' ≤ c && c ≤ '~') ||
    ('\x7F' < c && !Property.graphemeExtend.contains c &&
      (visibleCategories.any (·.contains c) || Recent.visible.contains c))

def escape (c : Char) : List Char :=
  if c = '\x00' then ['\\', '0']
  else if c = '\t' then ['\\', 't']
  else if c = '\r' then ['\\', 'r']
  else if c = '\n' then ['\\', 'n']
  else if c = '"' then ['\\', '"']
  else if c = '\\' then ['\\', '\\']
  else if isVisible c then [c]
  else ['\\', 'u', '\x7b'] ++ Nat.toDigits 16 c.toNat ++ ['\x7d']

def text (content : String) : String :=
  "\"" ++ String.ofList (content.toList.flatMap escape) ++ "\""

def list (contents : List String) : String :=
  "[" ++ ", ".intercalate (contents.map text) ++ "]"

end ApiMock.Quoted
