/-!
# Faults of XML texts
-/

set_option autoImplicit false

namespace ApiMock.Xml

inductive SyntaxError where
  | unexpectedEnd
  | unexpected (found : Char)
  | malformedDeclaration
  | malformedComment
  | malformedName
  | malformedReference
  | unknownReference (name : String)
  | reservedTarget
  | mismatchedEndTag (name : String)
  | duplicateAttribute (name : String)
  | undeclaredPrefix (name : String)
  | emptyNamespace (name : String)
  | noElement
  | trailing
deriving DecidableEq

end ApiMock.Xml
