import ApiMock.Http.Headers
import ApiMock.Report

/-!
# Responses
-/

set_option autoImplicit false

namespace ApiMock

structure Status where
  code : Nat
  three_digits : 100 ≤ code ∧ code < 1000
deriving DecidableEq

namespace Status

def ofNat? (code : Nat) : Option Status :=
  if three_digits : 100 ≤ code ∧ code < 1000 then some ⟨code, three_digits⟩ else none

def ok : Status := ⟨200, by decide⟩
def noContent : Status := ⟨204, by decide⟩
def notModified : Status := ⟨304, by decide⟩
def notFound : Status := ⟨404, by decide⟩
def methodNotAllowed : Status := ⟨405, by decide⟩
def internalServerError : Status := ⟨500, by decide⟩

end Status

inductive Body where
  | bytes (content : Bytes)
  | report (pieces : Report)

def Body.content (wording : ReaderFault → String) : Body → Bytes
  | .bytes content => content
  | .report pieces => Utf8.encode (pieces.text wording)

/-- A response while it is being made. A dropped one closes the connection without an answer. -/
structure Response where
  status : Status := .ok
  headers : Headers := []
  body : Body := .bytes []
  dropped : Bool := false

end ApiMock
