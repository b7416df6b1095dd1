import ApiMock.Definition.Basic
import ApiMock.Files
import ApiMock.Schema.Constraint

/-!
# Definitions from configurations

A definition is configured by a map with its constraints, its strategy, the expected number of calls
and the keys of that strategy. Children of a strategy are definitions at longer paths.
-/

set_option autoImplicit false

namespace ApiMock.Schema

/-- The strategies in configurations. A file stands for a constant body. -/
inductive StrategyKind where
  | nop
  | dropRequest
  | uriVary
  | methodVary
  | sequence
  | basedOnRequest
  | file
  | constant
  | template
deriving DecidableEq

namespace StrategyKind

def ofName? : String → Option StrategyKind
  | "nop" => some nop
  | "dropRequest" => some dropRequest
  | "uriVary" => some uriVary
  | "methodVary" => some methodVary
  | "sequence" => some sequence
  | "basedOnRequest" => some basedOnRequest
  | "file" => some file
  | "constant" => some constant
  | "template" => some template
  | _ => none

def keys : StrategyKind → List String
  | nop | dropRequest => []
  | uriVary | basedOnRequest => ["basePath", "uris"]
  | methodVary => ["methods"]
  | sequence => ["sequence"]
  | file => ["filename", "statusCode", "headers"]
  | constant | template => ["body", "statusCode", "headers"]

end StrategyKind

def definitionKeys : List String := ["requestConstraints", "strategy", "calls"]

/-- The status of a reply, 200 unless it is given. -/
def statusOf (fields : Fields) : Except Fault Status :=
  match fields.get? "statusCode" with
  | none => .ok .ok
  | some raw =>
    match raw.nat?.bind Status.ofNat? with
    | some status => .ok status
    | none => fields.complain (.invalidStatus raw)

def headerField (fields : Fields) (name : String) (value : Value) :
    Except Fault (String × Bytes) :=
  match value with
  | .string text =>
    match Headers.name? name with
    | none => fields.complain (.invalidHeaderName name)
    | some name =>
      match Headers.value? text with
      | none => fields.complain (.invalidHeaderValue name)
      | some value => .ok (name, value)
  | _ => fields.complain .headerNotText

def headerFields (fields : Fields) : Except Fault (List (String × Bytes)) :=
  match fields.get? "headers" with
  | none => .ok []
  | some (.object members) => members.mapM fun (name, value) => headerField fields name value
  | some _ => fields.complain .headersNotMap

def replyHead (fields : Fields) : Except Fault ReplyHead := do
  let status ← statusOf fields
  return { status, fields := ← headerFields fields }

def fileReply (files : Files) (fields : Fields) : Except Fault Strategy := do
  let path ← fields.text "filename"
  let head ← replyHead fields
  match files.read path with
  | .ok body => return .constant head body
  | .error words => fields.complain (.unreadableFile path words)

def constantReply (fields : Fields) : Except Fault Strategy := do
  let body ← fields.text "body"
  return .constant (← replyHead fields) (Utf8.encode body)

def templateReply (fields : Fields) : Except Fault Strategy := do
  let body ← fields.text "body"
  let head ← replyHead fields
  match Template.compile body with
  | .ok template => return .template head template
  | .error fault => fields.complain (.malformedTemplate fault)

def loadConstraints (path : String) : Nat → List Value → Except Fault (List Constraint)
  | _, [] => .ok []
  | index, raw :: rest => do
    let constraint ← loadConstraint (path ++ ".requestConstraints[" ++ toString index ++ "]") raw
    return constraint :: (← loadConstraints path (index + 1) rest)

def constraintsOf (fields : Fields) : Except Fault (List Constraint) :=
  match fields.get? "requestConstraints" with
  | none => .ok []
  | some (.array (first :: rest)) => loadConstraints fields.path 0 (first :: rest)
  | some _ => fields.complain .constraintsNotList

def callsOf (fields : Fields) : Except Fault (Option Nat) :=
  match fields.get? "calls" with
  | none => .ok none
  | some raw =>
    match raw.nat? with
    | some count => .ok (some count)
    | none => fields.complain .callsNotNatural

theorem sizeOf_object_lt {members children : List (String × Value)} {key : String}
    (h : members.lookup key = some (.object children)) : sizeOf children < sizeOf members := by
  have := Keyed.sizeOf_lt_of_lookup h
  simp only [Value.object.sizeOf_spec] at this
  omega

theorem sizeOf_array_lt {members : List (String × Value)} {items : List Value} {key : String}
    (h : members.lookup key = some (.array items)) : sizeOf items < sizeOf members := by
  have := Keyed.sizeOf_lt_of_lookup h
  simp only [Value.array.sizeOf_spec] at this
  omega

mutual

def loadDefinition (files : Files) (path : String) (raw : Value) : Except Fault Definition :=
  match raw with
  | .object members => do
    let fields : Fields := ⟨path, members⟩
    match fields.get? "strategy" with
    | some (.string name) =>
      match StrategyKind.ofName? name with
      | none => fields.complain (.unknownStrategy name)
      | some kind =>
        fields.checkKeys (definitionKeys ++ kind.keys)
        let constraints ← constraintsOf fields
        let expectedCalls ← callsOf fields
        let strategy ← loadStrategy files (path ++ "." ++ name) kind members
        return { path, constraints, strategy, expectedCalls }
    | _ => fields.complain .noStrategy
  | _ => .error ⟨path, .definitionNotMap⟩
termination_by sizeOf raw

def loadStrategy (files : Files) (path : String) (kind : StrategyKind)
    (members : List (String × Value)) : Except Fault Strategy :=
  let fields : Fields := ⟨path, members⟩
  match kind with
  | .nop => .ok .nop
  | .dropRequest => .ok .dropRequest
  | .constant => constantReply fields
  | .file => fileReply files fields
  | .template => templateReply fields
  | .uriVary => do
    let base ← fields.text? "basePath"
    match _found : members.lookup "uris" with
    | none => return .byUri (base.getD "") []
    | some (.object children) =>
      return .byUri (base.getD "") (← loadNamed files path children)
    | some _ => fields.complain (.notMap "uris")
  | .methodVary => do
    match _found : members.lookup "methods" with
    | none => return .byMethod []
    | some (.object children) => return .byMethod (← loadNamed files path children)
    | some _ => fields.complain (.notMap "methods")
  | .sequence => do
    match _found : members.lookup "sequence" with
    | none => fields.complain .sequenceMissing
    | some (.array items) => return .inSequence (← loadNumbered files path 0 items)
    | some _ => fields.complain .sequenceNotList
  | .basedOnRequest => do
    match _found : members.lookup "uris" with
    | none => return .byRequest []
    | some (.array items) => return .byRequest (← loadNumbered files path 0 items)
    | some _ => fields.complain .variantsNotList
termination_by sizeOf members
decreasing_by
  · exact sizeOf_object_lt _found
  · exact sizeOf_object_lt _found
  · exact sizeOf_array_lt _found
  · exact sizeOf_array_lt _found

def loadNamed (files : Files) (path : String) :
    List (String × Value) → Except Fault (List (String × Definition))
  | [] => .ok []
  | (name, raw) :: rest => do
    let definition ← loadDefinition files (path ++ "." ++ name) raw
    return (name, definition) :: (← loadNamed files path rest)
termination_by members => sizeOf members

def loadNumbered (files : Files) (path : String) :
    Nat → List Value → Except Fault (List Definition)
  | _, [] => .ok []
  | index, raw :: rest => do
    let definition ← loadDefinition files (path ++ "." ++ toString index) raw
    return definition :: (← loadNumbered files path (index + 1) rest)
termination_by _ items => sizeOf items

end

end ApiMock.Schema
