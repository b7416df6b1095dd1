/-!
# Faults of JSON texts
-/

set_option autoImplicit false

namespace ApiMock.Json

inductive SyntaxError where
  | unexpectedEnd
  | unexpected (found : Char)
  | trailing (found : Char)
  | malformedNumber
  | numberOutOfRange
  | malformedEscape
  | loneSurrogate
  | controlCharacter
  | tooDeep
  | notUtf8
deriving DecidableEq

end ApiMock.Json
