import ApiMock.Constraint
import ApiMock.Failure
import ApiMock.Http.Response
import ApiMock.Template

/-!
# Definitions

A mock behaves as a tree of definitions. Each definition has constraints, a strategy to reply and
perhaps an expected number of calls. A strategy either replies itself or dispatches the request to
one of its children. The counters of calls and the positions of sequences are all that changes while
requests are served.
-/

set_option autoImplicit false

namespace ApiMock

inductive Dispatcher where
  | uri
  | method
  /-- One child after the other; the position is that of the next one. -/
  | sequence (position : Nat)
  | request
deriving DecidableEq

structure ReplyHead where
  status : Status := .ok
  /-- Header fields with names in lower case, in the order of their configuration. -/
  fields : List (String × Bytes) := []

mutual

/-- A node of a tree: what is expected of a request and how it is answered. The path names the node
in reports. -/
structure Definition where
  path : String
  constraints : List Constraint
  strategy : Strategy
  expectedCalls : Option Nat
  calls : Nat := 0

inductive Strategy where
  | unset
  | nop
  | dropRequest
  | constant (head : ReplyHead) (body : Bytes)
  | template (head : ReplyHead) (template : Template)
  | dispatch (dispatcher : Dispatcher) (children : List (String × Definition))

end

namespace Strategy

/-- The path of a child below a base path, with one slash in between. -/
def joinPath (base uri : String) : String :=
  String.ofList ((base.toList.reverse.dropWhile (· = '/')).reverse ++
    '/' :: uri.toList.dropWhile (· = '/'))

def byUri (base : String) (children : List (String × Definition)) : Strategy :=
  dispatch .uri (children.map fun (uri, child) => (joinPath base uri, child))

def byMethod (children : List (String × Definition)) : Strategy := dispatch .method children

def numbered (children : List Definition) : List (String × Definition) :=
  children.zipIdx.map fun (child, index) => (toString index, child)

def inSequence (children : List Definition) : Strategy :=
  dispatch (.sequence 0) (numbered children)

def byRequest (children : List Definition) : Strategy := dispatch .request (numbered children)

end Strategy

namespace Definition

def nop : Definition := { path := "$", constraints := [], strategy := .nop, expectedCalls := none }

def verify (definition : Definition) (request : Request) : List Failure :=
  definition.constraints.flatMap fun constraint =>
    (constraint.verify request).map fun violation =>
      .constraint constraint.kind violation request.dump

def strategyFailures (definition : Definition) : List Failure :=
  match definition.strategy with
  | .unset => [.missingStrategy definition.path]
  | _ => []

end Definition

end ApiMock
