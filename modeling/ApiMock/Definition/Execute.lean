import ApiMock.Definition.Basic

/-!
# Executing definitions

A request runs down one chain of the tree, from the root to the strategy that replies. Every
definition on the chain counts the call. Failures of constraints come first and do not keep a
definition from replying.
-/

set_option autoImplicit false

namespace ApiMock

structure Execution (α : Type) where
  after : α
  response : Response := {}
  failures : List Failure := []

def Execution.map {α β : Type} (f : α → β) (execution : Execution α) : Execution β where
  after := f execution.after
  response := execution.response
  failures := execution.failures

def Execution.precededBy {α : Type} (failures : List Failure) (execution : Execution α) :
    Execution α :=
  { execution with failures := failures ++ execution.failures }

namespace Dispatcher

def choose? (dispatcher : Dispatcher) (request : Request)
    (children : List (String × Definition)) : Option Nat :=
  match dispatcher with
  | uri => children.findIdx? fun child => child.1 = request.decodedPath
  | method => children.findIdx? fun child => Case.asciiEqual child.1 request.method
  | sequence position => if position < children.length then some position else none
  | .request => children.findIdx? fun child => (child.2.verify request).isEmpty

def advance : Dispatcher → Dispatcher
  | sequence position => sequence (position + 1)
  | dispatcher => dispatcher

def childFailures (dispatcher : Dispatcher) (request : Request) (child : Definition) :
    List Failure :=
  match dispatcher with
  -- A child chosen by its constraints has been verified. All it needs is a strategy.
  | .request => child.strategyFailures
  | _ => child.verify request

def unhandledStatus : Dispatcher → Status
  | method => .methodNotAllowed
  | _ => .notFound

def unhandledFailures (dispatcher : Dispatcher) (request : Request)
    (children : List (String × Definition)) : List Failure :=
  let rejections := match dispatcher with
    | .request => children.flatMap fun child => child.2.verify request
    | _ => []
  rejections ++ [.unhandled request.dump]

end Dispatcher

def ReplyHead.respond (head : ReplyHead) (body : Bytes) : Response where
  status := head.status
  headers := Headers.appendAll [] head.fields
  body := .bytes body

def ReplyHead.respondWith (head : ReplyHead) (template : Template) (request : Request) :
    Response × List Failure :=
  match template.render request with
  | .ok body => (head.respond (Utf8.encode body), [])
  | .error failure =>
    ({ status := .internalServerError, body := .report failure.report }, [.template failure])

mutual

def Definition.reply (request : Request) : Definition → Execution Definition
  | ⟨path, constraints, strategy, expectedCalls, calls⟩ =>
    (strategy.reply request).map fun strategy =>
      ⟨path, constraints, strategy, expectedCalls, calls + 1⟩

def Strategy.reply (request : Request) : Strategy → Execution Strategy
  | .unset => { after := .unset }
  | .nop => { after := .nop, response := { status := .noContent } }
  | .dropRequest => { after := .dropRequest, response := { dropped := true } }
  | .constant head body => { after := .constant head body, response := head.respond body }
  | .template head template =>
    let (response, failures) := head.respondWith template request
    { after := .template head template, response, failures }
  | .dispatch dispatcher children =>
    match dispatcher.choose? request children with
    | none =>
      { after := .dispatch dispatcher children
        response := { status := dispatcher.unhandledStatus }
        failures := dispatcher.unhandledFailures request children }
    | some position =>
      (replyAt request dispatcher children position).map (.dispatch dispatcher.advance)

def replyAt (request : Request) (dispatcher : Dispatcher) :
    List (String × Definition) → Nat → Execution (List (String × Definition))
  -- No dispatcher chooses a position behind its children.
  | [], _ => { after := [] }
  | (key, child) :: rest, 0 =>
    ((child.reply request).map fun child => (key, child) :: rest).precededBy
      (dispatcher.childFailures request child)
  | child :: rest, position + 1 =>
    (replyAt request dispatcher rest position).map (child :: ·)

end

namespace Definition

def execute (definition : Definition) (request : Request) : Execution Definition :=
  (definition.reply request).precededBy (definition.verify request)

def executeUnverified (definition : Definition) (request : Request) : Execution Definition :=
  (definition.reply request).precededBy definition.strategyFailures

end Definition

end ApiMock
