import ApiMock.Service

/-!
# Listeners of services

Starting and stopping the listener of a service, and requests that arrive over the network.
-/

set_option autoImplicit false

namespace ApiMock

inductive ListenerFault where
  | bind (service : String) (address : SocketAddress) (source : String)
  | notStarted (service : String)
  | alreadyStarted (service : String)
  | shutdownTimeout (service : String)
  | multiple (faults : List ListenerFault)

namespace ListenerFault

mutual

def message : ListenerFault → String
  | bind service address source =>
    "failed to bind mock " ++ service ++ " to " ++ address.text ++ ": " ++ source
  | notStarted service => "mock server " ++ service ++ " is not started"
  | alreadyStarted service => "mock server " ++ service ++ " is already started"
  | shutdownTimeout service =>
    "mock server " ++ service ++ " did not shut down before the deadline"
  | multiple faults => "; ".intercalate (messages faults)

def messages : List ListenerFault → List String
  | [] => []
  | fault :: rest => fault.message :: messages rest

end

def ofResult? : Except ListenerFault Unit → Option ListenerFault
  | .error fault => some fault
  | .ok () => none

end ListenerFault

def Listener.stalled : Listener → Listener
  | .stopped => .stopped
  | .running address _ => .running address true

namespace Service

def isRunning (service : Service) : Bool := service.listener != .stopped

def address (service : Service) : Except ListenerFault SocketAddress :=
  match service.listener with
  | .stopped => .error (.notStarted service.name)
  | .running address _ => .ok address

def start (service : Service) : Except ListenerFault Service :=
  if service.isRunning then .error (.alreadyStarted service.name)
  else
    match service.binding with
    | .error source => .error (.bind service.name service.listenAddress source)
    | .ok address => .ok { service with listener := .running address false }

/-- Stops the listener. It is stopped in any case, but not in time if a request does not end. -/
def shutdown (service : Service) : Service × Except ListenerFault Unit :=
  match service.listener with
  | .stopped => (service, .error (.notStarted service.name))
  | .running _ stalled =>
    ({ service with listener := .stopped },
      if stalled then .error (.shutdownTimeout service.name) else .ok ())

def stop (service : Service) : Service × Except ListenerFault Unit :=
  if service.isRunning then service.shutdown else (service, .ok ())

def stall (service : Service) : Except ListenerFault Service :=
  if service.isRunning then .ok { service with listener := service.listener.stalled }
  else .error (.notStarted service.name)

/-- Receives a request over a network that delivers it or not. If it does not, the service sees
nothing, and the client sees the connection close without an answer. -/
def receive (service : Service) (delivered : Bool) (request : Request) :
    Except ListenerFault (Execution Service) :=
  if !service.isRunning then .error (.notStarted service.name)
  else if delivered then .ok (service.serve request)
  else .ok { after := service, response := { dropped := true } }

inductive Arrival where
  | request (request : Request)
  | stalled

def meet (service : Service) : Arrival → Service
  | .request request => (service.serve request).after
  | .stalled => { service with listener := service.listener.stalled }

def meetAll (service : Service) (arrivals : List Arrival) : Service := arrivals.foldl meet service

end Service

namespace Response

def hasBody (response : Response) (method : String) : Bool :=
  method != "HEAD" && response.status != .noContent && response.status != .notModified

def hasLength (response : Response) : Bool :=
  response.status != .noContent && response.status != .notModified

def sentHeaders (wording : ReaderFault → String) (response : Response) : Headers :=
  let length := if response.hasLength then
    [("content-length", Utf8.encode (toString (response.body.content wording).length))] else []
  response.headers ++ [("connection", Utf8.encode "close")] ++ length

def sentBody (wording : ReaderFault → String) (response : Response) (method : String) : Bytes :=
  if response.hasBody method then response.body.content wording else []

end Response

end ApiMock
