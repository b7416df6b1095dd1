import ApiMock.Pattern.Syntax
import ApiMock.Text.Category

/-!
# Classes of general categories

The general categories of characters and the groups of them, by the names that an expression can
use.
-/

set_option autoImplicit false

namespace ApiMock.Pattern.NamedClass

open CharSet

def categories (shortNames : List String) : CharSet :=
  unions (shortNames.filterMap fun name => (Category.byShortName.lookup name).map table)

def categoryNames : List (List String × List String) :=
  [(["lu", "uppercaseletter"], ["Lu"]),
   (["ll", "lowercaseletter"], ["Ll"]),
   (["lt", "titlecaseletter"], ["Lt"]),
   (["lc", "casedletter"], ["Lu", "Ll", "Lt"]),
   (["lm", "modifierletter"], ["Lm"]),
   (["lo", "otherletter"], ["Lo"]),
   (["l", "letter"], ["Lu", "Ll", "Lt", "Lm", "Lo"]),
   (["mn", "nonspacingmark"], ["Mn"]),
   (["mc", "spacingmark"], ["Mc"]),
   (["me", "enclosingmark"], ["Me"]),
   (["m", "mark", "combiningmark"], ["Mn", "Mc", "Me"]),
   (["nd", "decimalnumber", "digit"], ["Nd"]),
   (["nl", "letternumber"], ["Nl"]),
   (["no", "othernumber"], ["No"]),
   (["n", "number"], ["Nd", "Nl", "No"]),
   (["pc", "connectorpunctuation"], ["Pc"]),
   (["pd", "dashpunctuation"], ["Pd"]),
   (["ps", "openpunctuation"], ["Ps"]),
   (["pe", "closepunctuation"], ["Pe"]),
   (["pi", "initialpunctuation"], ["Pi"]),
   (["pf", "finalpunctuation"], ["Pf"]),
   (["po", "otherpunctuation"], ["Po"]),
   (["p", "punctuation", "punct"], ["Pc", "Pd", "Ps", "Pe", "Pi", "Pf", "Po"]),
   (["sm", "mathsymbol"], ["Sm"]),
   (["sc", "currencysymbol"], ["Sc"]),
   (["sk", "modifiersymbol"], ["Sk"]),
   (["so", "othersymbol"], ["So"]),
   (["s", "symbol"], ["Sm", "Sc", "Sk", "So"]),
   (["zs", "spaceseparator"], ["Zs"]),
   (["zl", "lineseparator"], ["Zl"]),
   (["zp", "paragraphseparator"], ["Zp"]),
   (["z", "separator"], ["Zs", "Zl", "Zp"]),
   (["cc", "control", "cntrl"], ["Cc"]),
   (["cf", "format"], ["Cf"]),
   (["co", "privateuse"], ["Co"])]

def assigned : CharSet := categories (Category.byShortName.map Prod.fst)

/-- A general category by its name. Among the groups, what no category covers is unassigned. -/
def ofCategoryName? (name : String) : Option CharSet :=
  match name with
  | "any" => some all
  | "assigned" => some assigned
  | "ascii" => some ascii
  | "cn" | "unassigned" => some (complement assigned)
  | "c" | "other" => some (union (categories ["Cc", "Cf", "Co"]) (complement assigned))
  | _ => (categoryNames.find? fun entry => entry.1.contains name).map fun entry =>
      categories entry.2

end ApiMock.Pattern.NamedClass
