import ApiMock.Text.Split

/-!
# Directives in expected strings

An expected string of the form `$matchRegexp(…)` stands for all texts in which the pattern between
the parentheses occurs. The pattern is not empty and lies on one line.
-/

set_option autoImplicit false

namespace ApiMock.Directive

def opening : List Char := "$matchRegexp(".toList

def pattern? (text : String) : Option String :=
  match Split.dropWord? opening text.toList with
  | none => none
  | some body =>
    let source := body.dropLast
    if body.getLast? = some ')' ∧ source ≠ [] ∧ '\n' ∉ source then some (String.ofList source)
    else none

end ApiMock.Directive
