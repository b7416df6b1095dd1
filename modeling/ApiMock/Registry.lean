import ApiMock.Service.Listener

/-!
# Registries

The services of a test by their names. Starting them is all or nothing; stopping them stops all that
are running, whatever happens with one of them.
-/

set_option autoImplicit false

namespace ApiMock

structure Registry where
  services : List Service := []

namespace Registry

/-- The services in the order of their names. Of two with the same name the later one counts. -/
def ofList (services : List Service) : Registry :=
  ⟨(Keyed.ofEntries (services.map fun service => (service.name, service))).map Prod.snd⟩

def service? (registry : Registry) (name : String) : Option Service :=
  registry.services.find? fun service => service.name = name

def modify (registry : Registry) (name : String) (change : Service → Service) : Registry :=
  ⟨registry.services.map fun service => if service.name = name then change service else service⟩

def resetDefinitions (registry : Registry) : Registry :=
  ⟨registry.services.map Service.resetDefinition⟩

def resetContext (registry : Registry) : Registry :=
  ⟨registry.services.map Service.resetContext⟩

def contextFailures (registry : Registry) : List ServiceFailure :=
  registry.services.flatMap Service.contextFailures

/-- Starts services one after the other. Clients come to the listeners that are started as soon as
they are. After a fault, those that were started are stopped again, whether in time or not. -/
def startAll (arrivals : String → List Service.Arrival) :
    List Service → List Service × Except ListenerFault Unit
  | [] => ([], .ok ())
  | service :: rest =>
    match service.start with
    | .error fault => (service :: rest, .error fault)
    | .ok started =>
      let started := started.meetAll (arrivals started.name)
      match startAll arrivals rest with
      | (others, .ok ()) => (started :: others, .ok ())
      | (others, .error fault) => (started.shutdown.1 :: others, .error fault)

def start (registry : Registry) (arrivals : String → List Service.Arrival := fun _ => []) :
    Registry × Except ListenerFault Unit :=
  let (services, result) := startAll arrivals registry.services
  (⟨services⟩, result)

/-- Stops all services that are running, whatever the faults are. -/
def shutdown (registry : Registry) : Registry × Except ListenerFault Unit :=
  let stopped := registry.services.map Service.stop
  let faults := stopped.filterMap fun stop => ListenerFault.ofResult? stop.2
  (⟨stopped.map Prod.fst⟩, if faults.isEmpty then .ok () else .error (.multiple faults))

end Registry

end ApiMock
