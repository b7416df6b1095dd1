import ApiMock.Pattern.NamedClass.Category
import ApiMock.Text.Boundary
import ApiMock.Text.Property

/-!
# Derived properties

The binary properties that follow from others: the characters of names, those that change with
case, and the exceptions by which the derivation of a property goes beyond the general categories.
-/

set_option autoImplicit false

namespace ApiMock.Pattern.NamedClass

open CharSet

def letter : CharSet := categories ["Lu", "Ll", "Lt", "Lm", "Lo", "Nl"]

def ofPatterns : CharSet :=
  union (table Property.patternSyntax) (table Property.patternWhiteSpace)

/-! ## Names -/

def nameStart : CharSet := diff (union letter (table Property.otherIdStart)) ofPatterns

def nameContinue : CharSet :=
  union nameStart
    (diff (union (categories ["Mn", "Mc", "Nd", "Pc"]) (table Property.otherIdContinue)) ofPatterns)

def unstableContinue : CharTable :=
  .ofRanges
    ([0x37A, 0x309B, 0x309C, 0xFE70, 0xFE72, 0xFE74, 0xFE76, 0xFE78, 0xFE7A, 0xFE7C, 0xFE7E].map
        (fun code => (code, code)) ++
      [(0xFC5E, 0xFC63), (0xFDFA, 0xFDFB)])

def unstableStart : CharSet :=
  union (table unstableContinue)
    (table (.ofRanges [(0xE33, 0xE33), (0xEB3, 0xEB3), (0xFF9E, 0xFF9F)]))

def mathContinue : CharSet :=
  union (table Property.idCompatMathStart)
    (table (.ofRanges
      [(0xB2, 0xB3), (0xB9, 0xB9), (0x2070, 0x2070), (0x2074, 0x207E), (0x2080, 0x208E)]))

/-! ## Case -/

def capitalDigraph : CharSet :=
  table (.ofRanges [(0x1C4, 0x1C4), (0x1C7, 0x1C7), (0x1CA, 0x1CA), (0x1F1, 0x1F1)])

/-- The characters that change in titles: those that change in upper case, except for the forms of
titles themselves and for Georgian letters. -/
def changesInTitle : CharSet :=
  union capitalDigraph
    (diff (table Property.changesWhenUppercased)
      (union (categories ["Lt"]) (table Boundary.caselessLetter)))

/-! ## Names of properties -/

def derived : List (List String × CharSet) :=
  [(["cwcm", "changeswhencasemapped"],
    unions
      [table Property.changesWhenLowercased, table Property.changesWhenUppercased, changesInTitle]),
   (["cwt", "changeswhentitlecased"], changesInTitle),
   (["grbase", "graphemebase"],
    diff assigned
      (union (categories ["Cc", "Cf", "Co", "Zl", "Zp"]) (table Property.graphemeExtend))),
   (["ids", "idstart"], nameStart),
   (["idc", "idcontinue"], nameContinue),
   (["xids", "xidstart"], diff nameStart unstableStart),
   (["xidc", "xidcontinue"], diff nameContinue (table unstableContinue)),
   (["idcompatmathcontinue"], mathContinue),
   (["oalpha", "otheralphabetic"], diff (table Property.alphabetic) letter),
   (["ogrext", "othergraphemeextend"],
    diff (table Property.graphemeExtend) (categories ["Mn", "Me"])),
   (["olower", "otherlowercase"], diff (table Property.lowercase) (categories ["Ll"])),
   (["oupper", "otheruppercase"], diff (table Property.uppercase) (categories ["Lu"])),
   (["omath", "othermath"], diff (table Property.math) (categories ["Sm"]))]

def ofPropertyName? (name : String) : Option CharSet :=
  ((Property.byName.lookup name).map table).or
    ((derived.find? fun entry => entry.1.contains name).map Prod.snd)

end ApiMock.Pattern.NamedClass
