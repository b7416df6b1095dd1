import ApiMock.Constraint.Violation
import ApiMock.Http.Request
import ApiMock.Template

/-!
# Failures

What goes wrong while a mock serves requests, or shows when its calls are counted afterwards.
Failures are collected, not thrown: the mock replies nevertheless.
-/

set_option autoImplicit false

namespace ApiMock

inductive Failure where
  | constraint (kind : String) (violation : Violation) (request : String)
  | callCount (path : String) (expected actual : Nat)
  | unhandled (request : String)
  | template (failure : Template.Failure)
  | missingStrategy (path : String)

def Failure.report : Failure → Report
  | constraint kind violation request =>
    .words ("request constraint " ++ kind ++ " failed: ") :: violation.report
      ++ [.words (", request was:\n " ++ request)]
  | callCount path expected actual =>
    .ofWords ("at path " ++ path ++ ": number of calls does not match: expected "
      ++ toString expected ++ ", actual " ++ toString actual)
  | unhandled request => .ofWords ("unhandled request to mock:\n" ++ request)
  | template failure => .words "template mock error: " :: failure.report
  | missingStrategy path => .ofWords ("at path " ++ path ++ ": reply strategy undefined")

end ApiMock
