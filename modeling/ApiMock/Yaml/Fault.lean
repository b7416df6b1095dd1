/-!
# Faults of YAML texts
-/

set_option autoImplicit false

namespace ApiMock.Yaml

inductive Fault where
  | forbiddenCharacter (found : Char)
  | unexpectedCharacter (found : Char)
  | unexpectedEnd
  | documentMark
  | tabInIndentation
  | missingColon
  | misplacedEntry
  | misplacedKey
  | misplacedValue
  | unexpectedColon
  | malformedEscape
  | malformedAnchor
  | malformedTag
  | malformedBlockHeader
  | malformedDirective
  | duplicateDirective
  | incompatibleVersion
  | undefinedTagHandle (handle : String)
  | unexpectedToken
  | unknownAnchor (name : String)
  | severalDocuments
  | unknownTag (tag : String)
  | valueNotOfTag (tag : String)
  | integerOutOfRange
  | keyNotScalar
  | tooDeep
  | tooManyAliases
  | missingDocument
  | notMap
  | unknownField (name : String)
  | repeatedField
  | missingField (name : String)
  | invalidAddress (text : String)
  | notNatural
deriving DecidableEq

end ApiMock.Yaml
