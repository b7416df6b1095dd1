import ApiMock.Schema.Definition

/-!
# Valid configurations

What a configuration of a constraint or of a definition looks like, strategy by strategy and kind by
kind. Nothing is said here about the checks that are made when it is loaded, about their order or
about paths.
-/

set_option autoImplicit false

namespace ApiMock.Schema

section

variable (members : List (String × Value)) (key : String)

def Given (property : Value → Prop) : Prop :=
  ∃ value, members.lookup key = some value ∧ property value

def IfGiven (property : Value → Prop) : Prop :=
  ∀ value, members.lookup key = some value → property value

def KeysAmong (allowed : List String) : Prop := ∀ key ∈ Keyed.keys members, key ∈ allowed

end

/-! ## Values of keys -/

def IsTextOf (property : String → Prop) (value : Value) : Prop :=
  ∃ text, value = .string text ∧ property text

def IsText : Value → Prop := IsTextOf fun _ => True

def IsMap (value : Value) : Prop := ∃ members, value = .object members

def IsList (value : Value) : Prop := ∃ items, value = .array items

/-- A non-negative integer of 64 bits. -/
def IsCount (value : Value) : Prop :=
  ∃ (count : Nat) (fits : Number.FitsWord count),
    value = .number (.integer count fits) ∧ count < 0x10000000000000000

/-- An integer of three digits. -/
def IsStatus (value : Value) : Prop :=
  ∃ (code : Nat) (fits : Number.FitsWord code),
    value = .number (.integer code fits) ∧ 100 ≤ code ∧ code ≤ 999

def IsHeaderName (name : String) : Prop :=
  name ≠ "" ∧ name.length ≤ Headers.maximalNameLength ∧ ∀ c ∈ name.toList, Headers.isNameChar c

def IsHeaderValue (text : String) : Prop := ∀ byte ∈ Utf8.encode text, Headers.isValueByte byte

def AreHeaders (value : Value) : Prop :=
  ∃ fields, value = .object fields ∧
    ∀ field ∈ fields, IsHeaderName field.1 ∧ IsTextOf IsHeaderValue field.2

def IsJson (text : String) : Prop := ∃ document, Json.read text = .ok document

def IsXml (text : String) : Prop := ∃ document, Xml.read text = .ok document

def IsPattern (source : String) : Prop := ∃ pattern, Pattern.compile source = .ok pattern

def IsTemplate (source : String) : Prop := ∃ template, Template.compile source = .ok template

def IsFieldPath (path : String) : Prop := ∃ query, FieldPath.query? path = some query

def IsReadable (files : Files) (path : String) : Prop := ∃ content, files.read path = .ok content

/-- Options of a comparison are flags. -/
def AreOptions (value : Value) : Prop :=
  ∃ options, value = .object options ∧
    KeysAmong options ["ignoreValues", "ignoreArraysOrdering", "disallowExtraFields"] ∧
    ∀ option ∈ options, ∃ flag, option.2 = .bool flag

/-! ## Constraints -/

/-- The kind of a constraint, and no keys but those of the kind. -/
structure OfKind (kind : String) (own : List String) (members : List (String × Value)) : Prop where
  kind : members.lookup "kind" = some (.string kind)
  keys : KeysAmong members ("kind" :: own)

inductive ValidConstraint : Value → Prop where
  | nop {members} : OfKind "nop" [] members → ValidConstraint (.object members)
  | methodIsGet {members} : OfKind "methodIsGET" [] members → ValidConstraint (.object members)
  | methodIsPost {members} : OfKind "methodIsPOST" [] members → ValidConstraint (.object members)
  | bodyMatchesJson {members} :
      OfKind "bodyMatchesJSON" ["body", "comparisonParams"] members →
      Given members "body" (IsTextOf IsJson) → IfGiven members "comparisonParams" AreOptions →
      ValidConstraint (.object members)
  | bodyMatchesXml {members} :
      OfKind "bodyMatchesXML" ["body", "comparisonParams"] members →
      Given members "body" (IsTextOf IsXml) → IfGiven members "comparisonParams" AreOptions →
      ValidConstraint (.object members)
  | bodyJsonFieldMatchesJson {members} :
      OfKind "bodyJSONFieldMatchesJSON" ["path", "value", "comparisonParams"] members →
      Given members "path" (IsTextOf IsFieldPath) → Given members "value" (IsTextOf IsJson) →
      IfGiven members "comparisonParams" AreOptions → ValidConstraint (.object members)
  | queryMatches {members} :
      OfKind "queryMatches" ["expectedQuery"] members → Given members "expectedQuery" IsText →
      ValidConstraint (.object members)
  | queryMatchesRegexp {members} :
      OfKind "queryMatchesRegexp" ["expectedQuery"] members →
      Given members "expectedQuery" IsText → ValidConstraint (.object members)
  | methodIs {members} :
      OfKind "methodIs" ["method"] members → Given members "method" (IsTextOf (· ≠ "")) →
      ValidConstraint (.object members)
  | headerIs {members} :
      OfKind "headerIs" ["header", "value", "regexp"] members →
      Given members "header" (IsTextOf (· ≠ "")) → IfGiven members "value" IsText →
      IfGiven members "regexp" (IsTextOf fun source => source ≠ "" ∧ IsPattern source) →
      ValidConstraint (.object members)
  | bodyMatchesText {members} :
      OfKind "bodyMatchesText" ["body", "regexp"] members → IfGiven members "body" IsText →
      IfGiven members "regexp" (IsTextOf fun source => source = "" ∨ IsPattern source) →
      ValidConstraint (.object members)
  | pathMatches {members} :
      OfKind "pathMatches" ["path", "regexp"] members → IfGiven members "path" IsText →
      IfGiven members "regexp" (IsTextOf fun source => source ≠ "" ∧ IsPattern source) →
      ValidConstraint (.object members)

def AreConstraints (value : Value) : Prop :=
  ∃ items, value = .array items ∧ items ≠ [] ∧ ∀ item ∈ items, ValidConstraint item

/-! ## Definitions -/

/-- What every definition has: a strategy, no keys but those of definitions and of the strategy,
and valid values of the former. -/
structure OfStrategy (name : String) (own : List String) (members : List (String × Value)) :
    Prop where
  strategy : members.lookup "strategy" = some (.string name)
  keys : KeysAmong members (["requestConstraints", "strategy", "calls"] ++ own)
  constraints : IfGiven members "requestConstraints" AreConstraints
  calls : IfGiven members "calls" IsCount

/-- The keys of a reply other than that of its body. -/
structure ValidHead (members : List (String × Value)) : Prop where
  status : IfGiven members "statusCode" IsStatus
  headers : IfGiven members "headers" AreHeaders

inductive ValidDefinition (files : Files) : Value → Prop where
  | nop {members} : OfStrategy "nop" [] members → ValidDefinition files (.object members)
  | dropRequest {members} :
      OfStrategy "dropRequest" [] members → ValidDefinition files (.object members)
  | constant {members} :
      OfStrategy "constant" ["body", "statusCode", "headers"] members →
      Given members "body" IsText → ValidHead members → ValidDefinition files (.object members)
  | file {members} :
      OfStrategy "file" ["filename", "statusCode", "headers"] members →
      Given members "filename" (IsTextOf (IsReadable files)) → ValidHead members →
      ValidDefinition files (.object members)
  | template {members} :
      OfStrategy "template" ["body", "statusCode", "headers"] members →
      Given members "body" (IsTextOf IsTemplate) → ValidHead members →
      ValidDefinition files (.object members)
  | uriVary {members} :
      OfStrategy "uriVary" ["basePath", "uris"] members → IfGiven members "basePath" IsText →
      IfGiven members "uris" IsMap →
      (∀ children, members.lookup "uris" = some (.object children) →
        ∀ child ∈ children, ValidDefinition files child.2) →
      ValidDefinition files (.object members)
  | methodVary {members} :
      OfStrategy "methodVary" ["methods"] members → IfGiven members "methods" IsMap →
      (∀ children, members.lookup "methods" = some (.object children) →
        ∀ child ∈ children, ValidDefinition files child.2) →
      ValidDefinition files (.object members)
  | sequence {members} :
      OfStrategy "sequence" ["sequence"] members → Given members "sequence" IsList →
      (∀ items, members.lookup "sequence" = some (.array items) →
        ∀ item ∈ items, ValidDefinition files item) →
      ValidDefinition files (.object members)
  | basedOnRequest {members} :
      OfStrategy "basedOnRequest" ["basePath", "uris"] members → IfGiven members "uris" IsList →
      (∀ items, members.lookup "uris" = some (.array items) →
        ∀ item ∈ items, ValidDefinition files item) →
      ValidDefinition files (.object members)

end ApiMock.Schema
