import ApiMock.Report
import ApiMock.Text.Quoted
import ApiMock.Value.Text

/-!
# Faults of configurations

What can be wrong with the configuration of a definition or of a constraint, and where.
-/

set_option autoImplicit false

namespace ApiMock.Schema

inductive Complaint where
  | definitionNotMap
  | constraintNotMap
  | noStrategy
  | unknownStrategy (name : String)
  | unknownConstraint (kind : String)
  | unexpectedKey (key : String) (allowed : List String)
  | missingKey (key : String)
  | notText (key : String)
  | emptyText (key : String)
  | notMap (key : String)
  | notFlag (key : String)
  | constraintsNotList
  | callsNotNatural
  | invalidStatus (raw : Value)
  | headersNotMap
  | headerNotText
  | invalidHeaderName (name : String)
  | invalidHeaderValue (name : String)
  | unreadableFile (path : String) (words : String)
  | malformedTemplate (fault : Template.SyntaxError)
  | malformedJson (fault : Json.SyntaxError)
  | malformedXml (fault : Xml.SyntaxError)
  | malformedPattern (fault : Pattern.Fault)
  | malformedPath (path : String)
  | sequenceMissing
  | sequenceNotList
  | variantsNotList
  | optionsNotMap

def Complaint.report : Complaint → Report
  | definitionNotMap => .ofWords "definition must be key-values"
  | constraintNotMap => .ofWords "constraint must be a map"
  | noStrategy => .ofWords "requires `strategy` key on root level"
  | unknownStrategy name => .ofWords ("unknown strategy: " ++ name)
  | unknownConstraint kind => .ofWords ("unknown constraint: " ++ kind)
  | unexpectedKey key allowed =>
    .ofWords ("unexpected key " ++ key ++ " (expecting " ++ Quoted.list allowed ++ ")")
  | missingKey key => .ofWords ("requires `" ++ key ++ "` key")
  | notText key => .ofWords ("`" ++ key ++ "` must be string")
  | emptyText key => .ofWords ("`" ++ key ++ "` must not be empty")
  | notMap key => .ofWords ("`" ++ key ++ "` must be a map")
  | notFlag key => .ofWords ("`" ++ key ++ "` must be a boolean")
  | constraintsNotList => .ofWords "`requestConstraints` requires a non-empty array"
  | callsNotNatural => .ofWords "`calls` must be a non-negative integer"
  | invalidStatus raw => .ofWords ("invalid `statusCode`: " ++ raw.text)
  | headersNotMap => .ofWords "`headers` must be a map"
  | headerNotText => .ofWords "`headers` requires string values"
  | invalidHeaderName name =>
    .ofWords ("invalid header name " ++ name ++ ": invalid HTTP header name")
  | invalidHeaderValue name =>
    .ofWords ("invalid value for header " ++ name ++ ": failed to parse header value")
  | unreadableFile path words => .ofWords ("unable to read " ++ path ++ ": " ++ words)
  | malformedTemplate fault => [.words "template syntax error: ", .fault (.template fault)]
  | malformedJson fault => [.words "invalid JSON: ", .fault (.json fault)]
  | malformedXml fault => [.words "invalid XML: ", .fault (.xml fault)]
  | malformedPattern fault => [.words "invalid regexp: ", .fault (.pattern fault)]
  | malformedPath path =>
    [.words ("invalid JSON path " ++ path ++ ": "), .fault (.path path)]
  | sequenceMissing => .ofWords "`sequence` requires `sequence` key"
  | sequenceNotList => .ofWords "`sequence` must be a list"
  | variantsNotList => .ofWords "`basedOnRequest` requires list under `uris` key"
  | optionsNotMap => .ofWords "`comparisonParams` can't be parsed"

structure Fault where
  path : String
  complaint : Complaint

def Fault.report (fault : Fault) : Report :=
  .words ("at path " ++ fault.path ++ ": ") :: fault.complaint.report

end ApiMock.Schema
