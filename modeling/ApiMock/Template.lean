import ApiMock.Http.Request
import ApiMock.Report
import ApiMock.Template.Block
import ApiMock.Template.Render

/-!
# Templates of reply bodies

A template is compiled once and rendered for each request, which it sees as the member `request` of
its data. The body is decoded as JSON only for a template that names the decoded body.
-/

set_option autoImplicit false

namespace ApiMock

structure Template where
  source : String
  elements : List Template.Element

namespace Template

inductive Failure where
  | malformedBody (fault : Json.SyntaxError)
  | render (fault : RenderError)
deriving DecidableEq

def Failure.report : Failure → Report
  | malformedBody fault => [.words "failed to parse request as JSON: ", .fault (.json fault)]
  | render fault => [.fault (.rendering fault)]

def compile (source : String) : Except SyntaxError Template := do
  return { source, elements := ← readElements source }

def decodedBodyName : String := "request.json"

def namesDecodedBody (template : Template) : Bool :=
  (Split.atWord? decodedBodyName.toList template.source.toList).isSome

def dataOf (request : Request) (decoded : Value) : Value :=
  let query := request.queryValues.filterMap fun (name, values) =>
    values.head?.map fun value => (name, Value.string value)
  let headers := request.headers.names.filterMap fun name =>
    (request.header? name).map fun value => (name, Value.string value)
  .object [("request", .object (Keyed.ofEntries [
    ("method", .string request.method),
    ("path", .string request.decodedPath),
    ("query", .object query),
    ("headers", .object (Keyed.ofEntries headers)),
    ("body", .string request.bodyText),
    ("json", decoded)]))]

def decodeBody (template : Template) (request : Request) : Except Failure Value :=
  if template.namesDecodedBody then (Json.read request.bodyText).mapError .malformedBody
  else .ok .null

def render (template : Template) (request : Request) : Except Failure String := do
  let decoded ← template.decodeBody request
  (renderElements template.elements (dataOf request decoded)).mapError .render

end Template

end ApiMock
