import ApiMock.Constraint
import ApiMock.JsonPath.FieldPath
import ApiMock.Schema.Fields

/-!
# Constraints from configurations

A constraint is configured by a map with its kind and the keys of that kind.
-/

set_option autoImplicit false

namespace ApiMock.Schema

/-- The kinds of constraints in configurations. Two of them stand for a constraint with its value
filled in. -/
inductive ConstraintKind where
  | nop
  | methodIsGet
  | methodIsPost
  | bodyMatchesJson
  | bodyMatchesXml
  | bodyJsonFieldMatchesJson
  | queryMatches
  | queryMatchesRegexp
  | methodIs
  | headerIs
  | bodyMatchesText
  | pathMatches
deriving DecidableEq

namespace ConstraintKind

def ofName? : String → Option ConstraintKind
  | "nop" => some nop
  | "methodIsGET" => some methodIsGet
  | "methodIsPOST" => some methodIsPost
  | "bodyMatchesJSON" => some bodyMatchesJson
  | "bodyMatchesXML" => some bodyMatchesXml
  | "bodyJSONFieldMatchesJSON" => some bodyJsonFieldMatchesJson
  | "queryMatches" => some queryMatches
  | "queryMatchesRegexp" => some queryMatchesRegexp
  | "methodIs" => some methodIs
  | "headerIs" => some headerIs
  | "bodyMatchesText" => some bodyMatchesText
  | "pathMatches" => some pathMatches
  | _ => none

def keys : ConstraintKind → List String
  | nop | methodIsGet | methodIsPost => []
  | bodyMatchesJson | bodyMatchesXml => ["body", "comparisonParams"]
  | bodyJsonFieldMatchesJson => ["path", "value", "comparisonParams"]
  | queryMatches | queryMatchesRegexp => ["expectedQuery"]
  | methodIs => ["method"]
  | headerIs => ["header", "value", "regexp"]
  | bodyMatchesText => ["body", "regexp"]
  | pathMatches => ["path", "regexp"]

end ConstraintKind

def setOptions (fields : Fields) :
    CompareOptions → List (String × Value) → Except Fault CompareOptions
  | options, [] => .ok options
  | options, (key, value) :: rest =>
    match value.bool? with
    | some flag => setOptions fields ((options.set? key flag).getD options) rest
    | none => fields.complain (.notFlag key)

/-- The options of a comparison. The order of arrays is ignored unless this is switched off. -/
def compareOptions (fields : Fields) : Except Fault CompareOptions :=
  match fields.get? "comparisonParams" with
  | none => .ok .unorderedArrays
  | some raw => do
    let path := fields.path ++ ".comparisonParams"
    match raw with
    | .object members =>
      let options : Fields := ⟨path, members⟩
      options.checkKeys CompareOptions.names
      setOptions options .unorderedArrays members
    | _ => throw ⟨path, .optionsNotMap⟩

def jsonDocument (fields : Fields) (text : String) : Except Fault Value :=
  (Json.read text).mapError fun fault => ⟨fields.path, .malformedJson fault⟩

def xmlDocument (fields : Fields) (text : String) : Except Fault Value :=
  (Xml.read text).mapError fun fault => ⟨fields.path, .malformedXml fault⟩

/-- A pattern, unless its text is empty. -/
def pattern? (fields : Fields) (source : Option String) : Except Fault (Option Pattern) :=
  match source.filter (· ≠ "") with
  | none => .ok none
  | some source =>
    match Pattern.compile source with
    | .ok pattern => .ok (some pattern)
    | .error fault => fields.complain (.malformedPattern fault)

def constraintOf (fields : Fields) : ConstraintKind → Except Fault Constraint
  | .nop => .ok .nop
  | .methodIsGet => .ok (.methodIs "GET")
  | .methodIsPost => .ok (.methodIs "POST")
  | .bodyMatchesJson => do
    let body ← fields.text "body"
    let options ← compareOptions fields
    return .jsonBodyMatches (← jsonDocument fields body) options
  | .bodyMatchesXml => do
    let body ← fields.text "body"
    let options ← compareOptions fields
    return .xmlBodyMatches (← xmlDocument fields body) options
  | .bodyJsonFieldMatchesJson => do
    let path ← fields.text "path"
    let value ← fields.text "value"
    let options ← compareOptions fields
    match FieldPath.query? path with
    | none => fields.complain (.malformedPath path)
    | some query => return .jsonFieldMatches path query (← jsonDocument fields value) options
  | .queryMatches => do return .queryMatches (Query.grouped (← fields.text "expectedQuery"))
  | .queryMatchesRegexp => do
    return .queryMatchesPatterns (Query.grouped (← fields.text "expectedQuery"))
  | .methodIs => do return .methodIs (← fields.nonEmptyText "method")
  | .headerIs => do
    let header ← fields.nonEmptyText "header"
    let value ← fields.text? "value"
    let pattern ← fields.nonEmptyText? "regexp"
    return .headerIs header (value.filter (· ≠ "")) (← pattern? fields pattern)
  | .bodyMatchesText => do
    let body ← fields.text? "body"
    let pattern ← fields.text? "regexp"
    return .textBodyMatches (body.filter (· ≠ "")) (← pattern? fields pattern)
  | .pathMatches => do
    let path ← fields.text? "path"
    let pattern ← fields.nonEmptyText? "regexp"
    return .pathMatches (path.filter (· ≠ "")) (← pattern? fields pattern)

def loadConstraint (path : String) (raw : Value) : Except Fault Constraint :=
  match raw with
  | .object members => do
    let fields : Fields := ⟨path, members⟩
    let name ← fields.text "kind"
    match ConstraintKind.ofName? name with
    | none => fields.complain (.unknownConstraint name)
    | some kind =>
      fields.checkKeys ("kind" :: kind.keys)
      constraintOf fields kind
  | _ => .error ⟨path, .constraintNotMap⟩

end ApiMock.Schema
