import ApiMock.Json.Reader
import ApiMock.Value.Text
import ApiMock.Text.Case
import ApiMock.Text.Quoted
import ApiMock.Text.Script
import ApiMock.Pattern
import ApiMock.Compare.Document
import ApiMock.Compare.Query
import ApiMock.Http.Request
import ApiMock.Http.Response
import ApiMock.Xml.Reader
import ApiMock.JsonPath.FieldPath
import ApiMock.Template
import ApiMock.Definition.Execute
import ApiMock.Definition.Context
import ApiMock.Schema.Definition
import ApiMock.Registry.Load
import ApiMock.Config
import ApiMock.Proofs.Keyed.Lookup
import ApiMock.Proofs.Value.DeepPerm
import ApiMock.Proofs.Compare.Canonical
import ApiMock.Proofs.Compare.ArrayOrder
import ApiMock.Proofs.Value.Place
import ApiMock.Proofs.Compare.Relaxation
import ApiMock.Proofs.Compare.DeepSort
import ApiMock.Proofs.Compare.IgnoredValues
import ApiMock.Proofs.Compare.DepthFirst
import ApiMock.Proofs.Json.WellFormed
import ApiMock.Proofs.Xml.WellFormed
import ApiMock.Proofs.Definition.Place
import ApiMock.Proofs.Definition.Reply
import ApiMock.Proofs.Definition.Chain
import ApiMock.Proofs.Definition.Answer
import ApiMock.Proofs.Definition.Run
import ApiMock.Proofs.Definition.Accounting
import ApiMock.Proofs.Definition.PostOrder
import ApiMock.Proofs.Definition.CallCounts
import ApiMock.Proofs.Compare.Rounds
import ApiMock.Proofs.Compare.Pairing
import ApiMock.Proofs.Compare.Texts
import ApiMock.Proofs.Compare.Agreement
import ApiMock.Proofs.Schema.Definition
import ApiMock.Proofs.Schema.Loading
import ApiMock.Proofs.Registry.Load
import ApiMock.Proofs.Service.Log
import ApiMock.Proofs.Text.Utf8
import ApiMock.Proofs.Text.Split
import ApiMock.Proofs.Http.QueryJoining
import ApiMock.Proofs.Http.FormEncoding
import ApiMock.Proofs.Definition.ArrivalOrder
import ApiMock.Proofs.Service.ArrivalOrder
import ApiMock.Proofs.Registry.Start
import ApiMock.Proofs.Template.DecodedBody
import ApiMock.Proofs.Compare.ExtraMembers
import ApiMock.Proofs.Constraint.Parameters
import ApiMock.Proofs.JsonPath.FieldPath
import ApiMock.Proofs.Number.Double
import ApiMock.Proofs.Number.Canonical
import ApiMock.Proofs.Constraint.EncodedField
import ApiMock.Proofs.Xml.Reordering
import ApiMock.Proofs.Xml.Distinction
import ApiMock.Proofs.Constraint.XmlBody
import ApiMock.Proofs.Http.PathEncoding
import ApiMock.Proofs.Definition.UriDispatch
import ApiMock.Proofs.Compare.Places
import ApiMock.Proofs.Schema.FirstFault
import ApiMock.Proofs.Schema.Labels
