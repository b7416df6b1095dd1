import ApiMock.Schema.Fault

/-!
# Fields of a configuration

A part of a configuration that is a map, with the path that names it in complaints.
-/

set_option autoImplicit false

namespace ApiMock.Schema

structure Fields where
  path : String
  members : List (String × Value)

namespace Fields

def complain {α : Type} (fields : Fields) (complaint : Complaint) : Except Fault α :=
  .error ⟨fields.path, complaint⟩

def get? (fields : Fields) (key : String) : Option Value := fields.members.lookup key

def checkKeys (fields : Fields) (allowed : List String) : Except Fault Unit :=
  match (Keyed.keys fields.members).find? fun key => !allowed.contains key with
  | some key => fields.complain (.unexpectedKey key allowed)
  | none => .ok ()

def text? (fields : Fields) (key : String) : Except Fault (Option String) :=
  match fields.get? key with
  | none => .ok none
  | some (.string text) => .ok (some text)
  | some _ => fields.complain (.notText key)

def nonEmptyText? (fields : Fields) (key : String) : Except Fault (Option String) := do
  match ← fields.text? key with
  | some "" => fields.complain (.emptyText key)
  | text => return text

def text (fields : Fields) (key : String) : Except Fault String := do
  match ← fields.text? key with
  | some text => return text
  | none => fields.complain (.missingKey key)

def nonEmptyText (fields : Fields) (key : String) : Except Fault String := do
  match ← fields.nonEmptyText? key with
  | some text => return text
  | none => fields.complain (.missingKey key)

end Fields

end ApiMock.Schema
