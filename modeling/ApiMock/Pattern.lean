import ApiMock.Pattern.Occurrence
import ApiMock.Pattern.Parser

/-!
# Patterns

A pattern is the text of a regular expression together with what it means. The only question asked
of it is whether it occurs in a text.
-/

set_option autoImplicit false

namespace ApiMock

structure Pattern where
  source : String
  regex : Pattern.Regex

namespace Pattern

def compile (source : String) : Except Fault Pattern :=
  (parse source).map fun regex => ⟨source, regex⟩

def occursIn (pattern : Pattern) (text : String) : Bool := pattern.regex.occursIn text

end Pattern

end ApiMock
