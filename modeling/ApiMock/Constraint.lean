import ApiMock.Compare.Document
import ApiMock.Compare.Query
import ApiMock.Constraint.Violation
import ApiMock.Http.Request
import ApiMock.Json.Reader
import ApiMock.JsonPath.Query
import ApiMock.Xml.Reader

/-!
# Constraints on requests

A constraint is checked against a request and yields violations, none if the request satisfies it.
What a constraint expects of a text is optional twice: a value and a pattern.
-/

set_option autoImplicit false

namespace ApiMock

inductive Constraint where
  | nop
  | jsonBodyMatches (expected : Value) (options : CompareOptions)
  | xmlBodyMatches (expected : Value) (options : CompareOptions)
  /-- The first value that a path leads to. -/
  | jsonFieldMatches (path : String) (query : JsonPath.Query) (expected : Value)
      (options : CompareOptions)
  | textBodyMatches (expected : Option String) (pattern : Option Pattern)
  | pathMatches (expected : Option String) (pattern : Option Pattern)
  | methodIs (name : String)
  | headerIs (name : String) (expected : Option String) (pattern : Option Pattern)
  | queryMatches (expected : List (String × List String))
  | queryMatchesPatterns (expected : List (String × List String))

namespace Constraint

def kind : Constraint → String
  | nop => "nop"
  | jsonBodyMatches .. => "bodyMatchesJSON"
  | xmlBodyMatches .. => "bodyMatchesXML"
  | jsonFieldMatches .. => "bodyJSONFieldMatchesJSON"
  | textBodyMatches .. => "bodyMatchesText"
  | pathMatches .. => "pathMatches"
  | methodIs _ => "methodIs"
  | headerIs .. => "headerIs"
  | queryMatches _ => "queryMatches"
  | queryMatchesPatterns _ => "queryMatchesRegexp"

def documentViolations (options : CompareOptions) (expected : Value) :
    Except Violation Value → List Violation
  | .ok actual => (compare options expected actual).map .mismatch
  | .error violation => [violation]

def decodeBody (request : Request) (decode : Bytes → Except DecodingFault Value) :
    Except Violation Value :=
  if request.body.isEmpty then .error .emptyBody
  else (decode request.body).mapError .malformedBody

def jsonBodyOf (request : Request) : Except Violation Value :=
  decodeBody request fun body => (Json.readBytes body).mapError .json

def xmlBodyOf (request : Request) : Except Violation Value :=
  decodeBody request fun body => (Xml.read (Utf8.decodeLossy body)).mapError .xml

def fieldValue (path : String) : Option Value → Except Violation Value
  | none => .error (.missingField path)
  | some .null => .error (.emptyField path)
  | some (.string "") => .error (.emptyField path)
  -- A text stands for the JSON document in it.
  | some (.string text) => (Json.read text).mapError (.malformedField path)
  | some value => .ok value

def fieldOf (path : String) (query : JsonPath.Query) (request : Request) :
    Except Violation Value := do
  let document ← jsonBodyOf request
  fieldValue path (query.first? document)

def textViolations (expected : Option String) (pattern : Option Pattern) (actual : String)
    (differs : String → Violation) (mismatches : String → Violation) : List Violation :=
  match expected.filter (· ≠ actual), pattern.filter (!·.occursIn actual) with
  | some expected, _ => [differs expected]
  | none, some pattern => [mismatches pattern.source]
  | none, none => []

def parameterViolations (key : String) (expected : List String) :
    Option (List String) → List Violation
  | none => [.missingParameter key]
  | some actual =>
    match compareQuery expected actual with
    | .ok true => []
    | .ok false => [.parameterDiffers key expected actual]
    | .error fault => [.malformedParameter key fault]

def queryViolations (expected actual : List (String × List String)) : List Violation :=
  expected.flatMap fun (key, values) => parameterViolations key values (actual.lookup key)

def verify (request : Request) : Constraint → List Violation
  | nop => []
  | jsonBodyMatches expected options => documentViolations options expected (jsonBodyOf request)
  | xmlBodyMatches expected options => documentViolations options expected (xmlBodyOf request)
  | jsonFieldMatches path query expected options =>
    documentViolations options expected (fieldOf path query request)
  | textBodyMatches expected pattern =>
    let actual := request.bodyText
    textViolations expected pattern actual (.bodyDiffers actual) (.bodyUnmatched actual)
  | pathMatches expected pattern =>
    let actual := request.decodedPath
    textViolations expected pattern actual (.pathDiffers actual) (.pathUnmatched actual)
  | methodIs name =>
    if Case.asciiEqual request.method name then [] else [.methodDiffers name request.method]
  | headerIs name expected pattern =>
    -- An empty value counts as a missing field.
    match (request.header? name).filter (· ≠ "") with
    | none => [.missingHeader name]
    | some actual =>
      textViolations expected pattern actual (.headerDiffers name actual)
        (.headerUnmatched name actual)
  | queryMatches expected | queryMatchesPatterns expected =>
    queryViolations expected request.queryValues

end Constraint

end ApiMock
