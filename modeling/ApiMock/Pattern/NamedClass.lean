import ApiMock.Pattern.NamedClass.Boundary
import ApiMock.Pattern.NamedClass.Category
import ApiMock.Pattern.NamedClass.Derived
import ApiMock.Text.Age
import ApiMock.Text.SharedScript

/-!
# Named character classes

The classes that an expression can name: those of one letter behind a backslash, the bracketed ones
of ASCII, and the properties of Unicode: binary ones, general categories, scripts, ages, and the
classes of characters at boundaries.
-/

set_option autoImplicit false

namespace ApiMock.Pattern

namespace NamedClass

open CharSet

def word : CharSet :=
  unions
    [table Property.alphabetic, table Category.nonspacingMark, table Category.spacingMark,
     table Category.enclosingMark, table Category.decimalNumber,
     table Category.connectorPunctuation, table Property.joinControl]

def asciiWord : CharSet := unions [range '0' '9', range 'A' 'Z', single '_', range 'a' 'z']

def asciiSpace : CharSet := unions [range '\t' '\r', single ' ']

def ofLetter? (letter : Char) (unicode : Bool) : Option CharSet :=
  match letter with
  | 'd' => some (if unicode then table Category.decimalNumber else range '0' '9')
  | 's' => some (if unicode then table Property.whiteSpace else asciiSpace)
  | 'w' => some (if unicode then word else asciiWord)
  | _ => none

def ofBracketName? (name : String) : Option CharSet :=
  match name with
  | "alnum" => some (unions [range '0' '9', range 'A' 'Z', range 'a' 'z'])
  | "alpha" => some (union (range 'A' 'Z') (range 'a' 'z'))
  | "ascii" => some ascii
  | "blank" => some (union (single '\t') (single ' '))
  | "cntrl" => some (union (range '\x00' '\x1F') (single '\x7F'))
  | "digit" => some (range '0' '9')
  | "graph" => some (range '!' '~')
  | "lower" => some (range 'a' 'z')
  | "print" => some (range ' ' '~')
  | "punct" => some (unions [range '!' '/', range ':' '@', range '[' '\x60', range '\x7b' '~'])
  | "space" => some asciiSpace
  | "upper" => some (range 'A' 'Z')
  | "word" => some asciiWord
  | "xdigit" => some (unions [range '0' '9', range 'A' 'F', range 'a' 'f'])
  | _ => none

/-- A name in lower case without blanks, underscores, hyphens and what is beyond ASCII, and without
a leading `is`. -/
def normalise (name : List Char) : String :=
  let (named, rest) := match name with
    | i :: s :: rest =>
      if Case.asciiLower i = 'i' ∧ Case.asciiLower s = 's' then (true, rest) else (false, name)
    | _ => (false, name)
  let kept := (rest.filter fun c => c ≠ ' ' ∧ c ≠ '_' ∧ c ≠ '-' ∧ c ≤ '\x7F').map Case.asciiLower
  -- `isc` is an abbreviation of its own
  if named ∧ kept = ['c'] then "isc" else String.ofList kept

def ofScriptName? (name : String) : Option CharSet := (Script.byName.lookup name).map table

/-- The characters that are used with the script of a name. What is used with some scripts only is
neither common nor does it inherit any script. -/
def ofSharedScriptName? (name : String) : Option CharSet :=
  (ofScriptName? name).map fun own =>
    match SharedScript.byName.lookup name with
    | some shared => union own (table shared)
    | none =>
      if ["zyyy", "common", "zinh", "inherited", "qaai"].contains name then
        diff own (table SharedScript.limited)
      else own

/-- The characters of a version and of those before it, by its number or by the short name with
which a letter comes in front and the point is left out. -/
def ofAge? (name : String) : Option CharSet :=
  let isNamed (version : String) : Bool :=
    name == version || name.toList == 'v' :: version.toList.filter (· ≠ '.')
  match Age.additions.findIdx? fun (version, _) => isNamed version with
  | some index =>
    some (unions ((Age.additions.take (index + 1)).map fun (_, added) => table added))
  | none => none

/-- The class of a single name: a property, a general category or a script. Three names that could
be either of the first two mean the category. -/
def ofName? (name : List Char) : Option CharSet :=
  let name := normalise name
  let property := if ["cf", "sc", "lc"].contains name then none else ofPropertyName? name
  property.or ((ofCategoryName? name).or (ofScriptName? name))

def ofNameAndValue? (name value : List Char) : Option CharSet :=
  let value := normalise value
  match normalise name with
  | "gc" | "generalcategory" => ofCategoryName? value
  | "sc" | "script" => ofScriptName? value
  | "scx" | "scriptextensions" => ofSharedScriptName? value
  | "age" => ofAge? value
  | "gcb" | "graphemeclusterbreak" => among? signClasses value
  | "wb" | "wordbreak" => among? wordClasses value
  | "sb" | "sentencebreak" => among? sentenceClasses value
  | _ => none

end NamedClass

end ApiMock.Pattern
