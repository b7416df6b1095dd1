import ApiMock.Proofs.JsonPath.FieldPath
import ApiMock.Proofs.Schema.Outcome
import ApiMock.Proofs.Text.Utf8
import Mathlib

/-!
# Fields that hold documents as texts

A field of a body may hold a document itself, or a text in which the document is written. A
constraint on the field compares the same document either way. A null is the exception: as a value
it counts as an empty field, and written in a text it is a document.
-/

set_option autoImplicit false

namespace ApiMock

/-- The body is a document with this part at a place. -/
def Request.HoldsAt (request : Request) (place : Location) (part : Value) : Prop :=
  ∃ document, Json.readBytes request.body = .ok document ∧ document.part? place = some part

namespace Constraint

variable {path text : String} {value : Value} {request : Request} {query : JsonPath.Query}
  {place : Location}

theorem readBytes_encode (text : String) : Json.readBytes (Utf8.encode text) = Json.read text := by
  rw [Json.readBytes, Utf8.decode?_encode]

theorem read_empty : Json.read "" = .error .unexpectedEnd := rfl

theorem fieldValue_of_text (decoded : Json.read text = .ok value) :
    fieldValue path (some (.string text)) = .ok value := by
  rw [fieldValue, decoded]
  · rfl
  · rintro rfl
    rw [read_empty] at decoded
    cases decoded

theorem fieldValue_of_structured (notText : value.kind ≠ .string) :
    fieldValue path (some value) =
      if value.kind = .null then .error (.emptyField path) else .ok value := by
  cases value with
  | string text => exact absurd rfl notText
  | _ => rfl

theorem fieldOf_of_holdsAt (selects : FieldPath.Selects query place)
    (holds : request.HoldsAt place value) :
    fieldOf path query request = fieldValue path (some value) := by
  obtain ⟨document, read, found⟩ := holds
  have some : request.body.isEmpty = false := by
    cases body : request.body with
    | nil =>
        rw [body, show [] = Utf8.encode "" from rfl, readBytes_encode, read_empty] at read
        cases read
    | cons => rfl
  have decoded : jsonBodyOf request = .ok document := by
    simp [jsonBodyOf, decodeBody, some, read, Except.mapError]
  have first : query.first? document = Option.some value := by
    rw [JsonPath.Query.first?, selects document, found]
    rfl
  rw [fieldOf, decoded, ← first]
  rfl

open FieldPath

variable {step : Step} {rest : Location} {fields : Schema.Fields} {constraint : Constraint}

/-- Once the dotted path is read, only the document and the options of the constraint can be
refused. -/
theorem constraintOf_of_dotted (first : (segment step).head? ≠ some '$')
    (spellable : ∀ s ∈ step :: rest, Spellable s) (quotable : ∀ s ∈ step :: rest, Quotable s)
    (path : fields.text "path" = .ok (dotted (step :: rest))) :
    Schema.constraintOf fields .bodyJsonFieldMatchesJson = do
      let value ← fields.text "value"
      let options ← Schema.compareOptions fields
      let expected ← Schema.jsonDocument fields value
      return .jsonFieldMatches (dotted (step :: rest)) (JsonPath.placeQuery (step :: rest)) expected
        options := by
  rw [Schema.constraintOf, path]
  simp only [bind, Except.bind, query?_dotted first spellable quotable]

theorem eq_jsonFieldMatches_of_constraintOf (first : (segment step).head? ≠ some '$')
    (spellable : ∀ s ∈ step :: rest, Spellable s) (quotable : ∀ s ∈ step :: rest, Quotable s)
    (path : fields.text "path" = .ok (dotted (step :: rest)))
    (built : Schema.constraintOf fields .bodyJsonFieldMatchesJson = .ok constraint) :
    ∃ expected options, constraint = .jsonFieldMatches (dotted (step :: rest))
      (JsonPath.placeQuery (step :: rest)) expected options := by
  rw [constraintOf_of_dotted first spellable quotable path, Schema.bind_eq_ok_iff] at built
  obtain ⟨_, _, built⟩ := built
  obtain ⟨options, _, built⟩ := Schema.bind_eq_ok_iff.mp built
  obtain ⟨expected, _, built⟩ := Schema.bind_eq_ok_iff.mp built
  exact ⟨expected, options, (Schema.pure_eq_ok_iff.mp built).symm⟩

/-- Whether the field holds a document or a text of it makes no difference to a constraint, except
that a null counts as an empty field. The rest of the bodies does not matter. -/
theorem verify_structured_field (first : (segment step).head? ≠ some '$')
    (spellable : ∀ s ∈ step :: rest, Spellable s) (quotable : ∀ s ∈ step :: rest, Quotable s)
    (path : fields.text "path" = .ok (dotted (step :: rest)))
    (built : Schema.constraintOf fields .bodyJsonFieldMatchesJson = .ok constraint)
    {structured encoded : Request} {value : Value} {text : String}
    (notText : value.kind ≠ .string) (decoded : Json.read text = .ok value)
    (holdsValue : structured.HoldsAt (step :: rest) value)
    (holdsText : encoded.HoldsAt (step :: rest) (.string text)) :
    constraint.verify structured =
      if value.kind = .null then [.emptyField (dotted (step :: rest))]
      else constraint.verify encoded := by
  obtain ⟨expected, options, rfl⟩ :=
    eq_jsonFieldMatches_of_constraintOf first spellable quotable path built
  have selects : Selects (JsonPath.placeQuery (step :: rest)) (step :: rest) :=
    JsonPath.placeQuery_nodes _
  rw [verify, verify, fieldOf_of_holdsAt selects holdsValue, fieldOf_of_holdsAt selects holdsText,
    fieldValue_of_structured notText, fieldValue_of_text decoded]
  split
  · rfl
  · rfl

/-- A request whose body is an object with one member. -/
def holding (written : String) : Request :=
  { body := Utf8.encode ("\x7b\"data\":" ++ written ++ "\x7d") }

theorem holdsAt_holding {written : String} {part : Value} (document : Value)
    (read : Json.read ("\x7b\"data\":" ++ written ++ "\x7d") = .ok document)
    (found : document.part? place = some part) : (holding written).HoldsAt place part :=
  ⟨document, (readBytes_encode _).trans read, found⟩

/-- The keys of a constraint on a field. -/
def fieldsFor (path expected : String) : Schema.Fields :=
  ⟨"$", [("path", .string path), ("value", .string expected)]⟩

theorem constraintOf_fieldsFor (first : (segment step).head? ≠ some '$')
    (spellable : ∀ s ∈ step :: rest, Spellable s) (quotable : ∀ s ∈ step :: rest, Quotable s)
    (read : Json.read text = .ok value) :
    Schema.constraintOf (fieldsFor (dotted (step :: rest)) text) .bodyJsonFieldMatchesJson =
      .ok (.jsonFieldMatches (dotted (step :: rest)) (JsonPath.placeQuery (step :: rest)) value
        .unorderedArrays) := by
  have json : Schema.jsonDocument (fieldsFor (dotted (step :: rest)) text) text = .ok value := by
    rw [Schema.jsonDocument, read]
    rfl
  rw [constraintOf_of_dotted first spellable quotable rfl]
  exact Schema.bind_eq_ok_iff.mpr ⟨text, rfl, Schema.bind_eq_ok_iff.mpr ⟨.unorderedArrays, rfl,
    Schema.bind_eq_ok_iff.mpr ⟨value, json, rfl⟩⟩⟩

theorem verify_structured_field_of_item :
    let fields := fieldsFor (dotted [.member "data", .item 1]) "[false]"
    (holding "[0,[true]]").HoldsAt [.member "data", .item 1] (.array [.bool true]) ∧
      (holding "[0,\"[ true]\"]").HoldsAt [.member "data", .item 1] (.string "[ true]") ∧
      ∃ constraint, Schema.constraintOf fields .bodyJsonFieldMatchesJson = .ok constraint ∧
        constraint.verify (holding "[0,[true]]") =
          constraint.verify (holding "[0,\"[ true]\"]") := by
  intro fields
  have spellable : ∀ s ∈ [Step.member "data", .item 1], Spellable s := by decide
  have quotable : ∀ s ∈ [Step.member "data", .item 1], Quotable s := by decide
  have structured : (holding "[0,[true]]").HoldsAt [.member "data", .item 1]
      (.array [.bool true]) :=
    holdsAt_holding (.object [("data", .array [_, .array [.bool true]])]) (by cbv) rfl
  have encoded : (holding "[0,\"[ true]\"]").HoldsAt [.member "data", .item 1]
      (.string "[ true]") :=
    holdsAt_holding (.object [("data", .array [_, .string "[ true]"])]) (by cbv) rfl
  have decoded : Json.read "[ true]" = .ok (.array [.bool true]) := by cbv
  have expected : Json.read "[false]" = .ok (.array [.bool false]) := by cbv
  have built := constraintOf_fieldsFor (by decide) spellable quotable expected
  exact ⟨structured, encoded, _, built, verify_structured_field (by decide) spellable quotable rfl
    built (by decide) decoded structured encoded⟩

/-- A null in a field counts as an empty field, although the text of a null is the same document. -/
theorem exists_verify_null_field_ne :
    let fields := fieldsFor (dotted [.member "data"]) "null"
    (holding "null").HoldsAt [.member "data"] .null ∧
      (holding "\"null\"").HoldsAt [.member "data"] (.string "null") ∧
      Json.read "null" = .ok .null ∧
      ∃ constraint, Schema.constraintOf fields .bodyJsonFieldMatchesJson = .ok constraint ∧
        constraint.verify (holding "null") = [.emptyField (dotted [.member "data"])] ∧
        constraint.verify (holding "\"null\"") = [] := by
  intro fields
  have structured : (holding "null").HoldsAt [.member "data"] .null :=
    holdsAt_holding (.object [("data", .null)]) (by cbv) rfl
  have encoded : (holding "\"null\"").HoldsAt [.member "data"] (.string "null") :=
    holdsAt_holding (.object [("data", .string "null")]) (by cbv) rfl
  have decoded : Json.read "null" = .ok .null := rfl
  have spellable : ∀ s ∈ [Step.member "data"], Spellable s := by decide
  have built := constraintOf_fieldsFor (by decide) spellable (by decide) decoded
  have selects : Selects (JsonPath.placeQuery [.member "data"]) [.member "data"] :=
    JsonPath.placeQuery_nodes _
  refine ⟨structured, encoded, decoded, _, built, ?_, ?_⟩
  · rw [verify, fieldOf_of_holdsAt selects structured]
    rfl
  · rw [verify, fieldOf_of_holdsAt selects encoded, fieldValue_of_text decoded]
    rfl

end Constraint

end ApiMock
