import ApiMock.Definition.Context
import ApiMock.Definition.Execute
import ApiMock.IpAddress

/-!
# Services

A service answers requests with its active definition and collects the failures. The definition it
was made with is active until it is replaced, and again after the replacement is taken back; its
counters stay what they were in between. A listener receives requests over the network.
-/

set_option autoImplicit false

namespace ApiMock

structure ServiceFailure where
  service : String
  failure : Failure

def ServiceFailure.report (failure : ServiceFailure) : Report :=
  .words ("mock " ++ failure.service ++ ": ") :: failure.failure.report

inductive Listener where
  | stopped
  /-- A stalled listener waits for a request that does not end. -/
  | running (address : SocketAddress) (stalled : Bool)
deriving DecidableEq

structure Service where
  name : String
  default : Definition := .nop
  replacement : Option Definition := none
  failures : List Failure := []
  listenAddress : SocketAddress := {}
  /-- What the system answers to the wish for this address: the address that the listener gets, or the
  words of a refusal. -/
  binding : Except String SocketAddress := .ok listenAddress
  listener : Listener := .stopped

namespace Service

def active (service : Service) : Definition := service.replacement.getD service.default

def withActive (service : Service) (definition : Definition) : Service :=
  match service.replacement with
  | some _ => { service with replacement := some definition }
  | none => { service with default := definition }

def setDefinition (service : Service) (definition : Definition) : Service :=
  { service with replacement := some definition }

def resetDefinition (service : Service) : Service := { service with replacement := none }

def resetContext (service : Service) : Service :=
  { service.withActive service.active.reset with failures := [] }

def serve (service : Service) (request : Request) : Execution Service :=
  let execution := service.active.execute request
  execution.map fun definition =>
    { service.withActive definition with failures := service.failures ++ execution.failures }

def contextFailures (service : Service) : List ServiceFailure :=
  (service.failures ++ service.active.contextFailures).map (ServiceFailure.mk service.name)

end Service

end ApiMock
