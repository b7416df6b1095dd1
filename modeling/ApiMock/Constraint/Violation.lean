import ApiMock.Compare.Mismatch
import ApiMock.Report
import ApiMock.Text.Quoted

/-!
# Violations of constraints
-/

set_option autoImplicit false

namespace ApiMock

inductive DecodingFault where
  | json (fault : Json.SyntaxError)
  | xml (fault : Xml.SyntaxError)
deriving DecidableEq

def DecodingFault.report : DecodingFault → Report
  | json fault => [.fault (.json fault)]
  | xml fault => [.words "invalid XML: ", .fault (.xml fault)]

inductive Violation where
  | mismatch (mismatch : Mismatch)
  | emptyBody
  | malformedBody (fault : DecodingFault)
  | missingField (path : String)
  | emptyField (path : String)
  | malformedField (path : String) (fault : Json.SyntaxError)
  | methodDiffers (expected actual : String)
  | missingHeader (header : String)
  | headerDiffers (header actual expected : String)
  | headerUnmatched (header actual pattern : String)
  | missingParameter (key : String)
  | parameterDiffers (key : String) (expected actual : List String)
  | malformedParameter (key : String) (fault : Pattern.Fault)
  | pathDiffers (actual expected : String)
  | pathUnmatched (actual pattern : String)
  | bodyDiffers (actual expected : String)
  | bodyUnmatched (actual pattern : String)

def Violation.report : Violation → Report
  | mismatch found => .ofWords found.message
  | emptyBody => .ofWords "request is empty"
  | malformedBody fault => .words "request body can not be decoded: " :: fault.report
  | missingField path => .ofWords ("json field " ++ path ++ " does not exist")
  | emptyField path => .ofWords ("json field " ++ path ++ " is empty")
  | malformedField path fault =>
    [.words ("json field " ++ path ++ " can not be decoded: "), .fault (.json fault)]
  | methodDiffers expected actual =>
    .ofWords ("method does not match: expected " ++ expected ++ ", actual " ++ actual)
  | missingHeader header => .ofWords ("request doesn't have header " ++ header)
  | headerDiffers header actual expected =>
    .ofWords (header ++ " header value " ++ actual ++ " doesn't match expected " ++ expected)
  | headerUnmatched header actual pattern =>
    .ofWords (header ++ " header value " ++ actual ++ " doesn't match regexp " ++ pattern)
  | missingParameter key => .ofWords ("'" ++ key ++ "' parameter is missing in query")
  | parameterDiffers key expected actual =>
    .ofWords ("'" ++ key ++ "' parameters are not equal.\n Got: " ++ Quoted.list actual
      ++ " \n Want: " ++ Quoted.list expected)
  | malformedParameter key fault =>
    [.words ("'" ++ key ++ "' parameter has a malformed regexp: "), .fault (.pattern fault)]
  | pathDiffers actual expected =>
    .ofWords ("url path " ++ actual ++ " doesn't match expected " ++ expected)
  | pathUnmatched actual pattern =>
    .ofWords ("url path " ++ actual ++ " doesn't match regexp " ++ pattern)
  | bodyDiffers actual expected =>
    .ofWords ("body value\n" ++ actual ++ "\ndoesn't match expected\n" ++ expected)
  | bodyUnmatched actual pattern =>
    .ofWords ("body value\n" ++ actual ++ "\ndoesn't match regexp " ++ pattern)

end ApiMock
