import ApiMock.Proofs.Schema.Outcome
import ApiMock.Proofs.Service.Run
import ApiMock.Registry

/-!
# Starting is all or nothing

Services are started one after the other, and clients come to those that listen already. If one does
not start, those before it are stopped again, in time or not, so the same services are running as
before. Stopping stops all that are running, and names those that were not stopped in time.
-/

set_option autoImplicit false

namespace ApiMock

namespace Service

/-- Why a service does not start: it is running already, or it is refused its address. -/
inductive StartFails : Service → ListenerFault → Prop where
  | running {service} : service.isRunning = true →
      StartFails service (.alreadyStarted service.name)
  | refused {service words} : service.isRunning = false → service.binding = .error words →
      StartFails service (.bind service.name service.listenAddress words)

variable {service started : Service} {fault : ListenerFault}

/-- A service can start if it is not running and gets an address. -/
def CanStart (service : Service) : Prop :=
  service.isRunning = false ∧ ∃ address, service.binding = .ok address

/-- What others see of a listener: whose it is, and whether it is running. -/
def sign (service : Service) : String × Bool := (service.name, service.isRunning)

def isStalled (service : Service) : Bool :=
  match service.listener with
  | .running _ stalled => stalled
  | .stopped => false

theorem start_eq_error_iff : service.start = .error fault ↔ service.StartFails fault := by
  constructor
  · intro fails
    unfold start at fails
    split at fails
    · cases fails
      exact .running ‹_›
    · split at fails
      · cases fails
        exact .refused (Bool.eq_false_iff.mpr ‹_›) ‹_›
      · cases fails
  · rintro (running | ⟨idle, refused⟩)
    · rw [start, if_pos running]
    · rw [start, if_neg (Bool.eq_false_iff.mp idle), refused]

theorem start_eq_ok (starts : service.start = .ok started) :
    service.CanStart ∧ started.sign = (service.name, true) := by
  unfold start at starts
  split at starts
  · cases starts
  · split at starts
    · cases starts
    · cases starts
      exact ⟨⟨Bool.eq_false_iff.mpr ‹_›, _, ‹_›⟩, rfl⟩

theorem succeeds_start_iff : Schema.Succeeds service.start ↔ service.CanStart := by
  constructor
  · rintro ⟨started, starts⟩
    exact (start_eq_ok starts).1
  · rintro ⟨idle, address, bound⟩
    exact ⟨_, by rw [start, if_neg (Bool.eq_false_iff.mp idle), bound]⟩

/-! ## Clients at a listener -/

theorem sign_serve (service : Service) (request : Request) :
    (service.serve request).after.sign = service.sign := by
  cases replaced : service.replacement <;>
    simp [serve, Execution.map, withActive, sign, isRunning, replaced]

/-- A listener that is running keeps running whatever arrives, and it may stall. -/
theorem sign_meet (running : service.isRunning = true) (arrival : Arrival) :
    (service.meet arrival).sign = service.sign := by
  cases arrival with
  | request request => exact sign_serve service request
  | stalled =>
      refine congrArg (Prod.mk service.name) (running.symm ▸ ?_)
      cases listener : service.listener with
      | stopped => rw [isRunning, listener] at running; cases running
      | running address stalled => simp [meet, Listener.stalled, isRunning, listener]

theorem sign_meetAll (running : service.isRunning = true) (arrivals : List Arrival) :
    (service.meetAll arrivals).sign = service.sign :=
  List.foldlRecOn (motive := fun reached => reached.sign = service.sign) arrivals meet rfl
    fun reached same arrival _ =>
      have runs : reached.isRunning = true := (congrArg Prod.snd same).trans running
      (sign_meet runs arrival).trans same

theorem sign_shutdown (service : Service) : service.shutdown.1.sign = (service.name, false) := by
  cases listener : service.listener <;> simp [shutdown, sign, isRunning, listener]

theorem sign_stop (service : Service) : service.stop.1.sign = (service.name, false) := by
  cases running : service.isRunning with
  | true =>
      rw [stop, if_pos running]
      exact sign_shutdown service
  | false =>
      rw [stop, running, if_neg Bool.false_ne_true]
      exact congrArg (Prod.mk service.name) running

theorem fault_stop (service : Service) :
    ListenerFault.ofResult? service.stop.2 =
      if service.isStalled then some (.shutdownTimeout service.name) else none := by
  cases listener : service.listener with
  | stopped => simp [stop, isRunning, isStalled, ListenerFault.ofResult?, listener]
  | running address stalled =>
      cases stalled <;>
        simp [stop, isRunning, isStalled, shutdown, ListenerFault.ofResult?, listener]

end Service

namespace Registry

variable {service started : Service} {services : List Service}
  {arrivals : String → List Service.Arrival} {fault : ListenerFault}

def names (registry : Registry) : List String := registry.services.map Service.name

/-- Which services are running, in the order in which they are treated. -/
def signs (registry : Registry) : List (String × Bool) := registry.services.map Service.sign

/-- The services with a request that does not end. -/
def stalled (registry : Registry) : List String :=
  (registry.services.filter Service.isStalled).map Service.name

/-! ## One service after the other -/

theorem startAll_cons_of_error (fails : service.start = .error fault) :
    startAll arrivals (service :: services) = (service :: services, .error fault) := by
  rw [startAll, fails]

/-- A service that starts is stopped again if a later one does not start. -/
theorem startAll_cons_of_ok (arrivals : String → List Service.Arrival) (services : List Service)
    (starts : service.start = .ok started) :
    (startAll arrivals (service :: services)).2 = (startAll arrivals services).2 ∧
      (startAll arrivals (service :: services)).1.map Service.sign =
        (service.name, (ListenerFault.ofResult? (startAll arrivals services).2).isNone) ::
          (startAll arrivals services).1.map Service.sign := by
  obtain ⟨_, sign⟩ := Service.start_eq_ok starts
  have met := Service.sign_meetAll (congrArg Prod.snd sign) (arrivals started.name)
  rw [sign] at met
  rw [startAll, starts]
  obtain ⟨others, result⟩ := startAll arrivals services
  refine ⟨by cases result <;> rfl, ?_⟩
  cases result with
  | ok => exact congrArg (· :: others.map Service.sign) met
  | error fault =>
      have stopped := Service.sign_shutdown (started.meetAll (arrivals started.name))
      have named := congrArg Prod.fst met
      dsimp only [Service.sign] at named
      rw [named] at stopped
      exact congrArg (· :: others.map Service.sign) stopped

/-! ## All services -/

theorem result_startAll (arrivals : String → List Service.Arrival) (services : List Service) :
    (startAll arrivals services).2 = (services.mapM Service.start).map fun _ => () := by
  induction services with
  | nil => rfl
  | cons service rest ih =>
      rw [List.mapM_cons]
      cases result : service.start with
      | error fault =>
          rw [startAll_cons_of_error result]
          rfl
      | ok started =>
          rw [(startAll_cons_of_ok arrivals rest result).1, ih]
          cases rest.mapM Service.start <;> rfl

/-- The first service that does not start gives the fault. -/
theorem startAll_eq_error_iff :
    (startAll arrivals services).2 = .error fault ↔
      ∃ before service behind, services = before ++ service :: behind ∧
        (∀ earlier ∈ before, earlier.CanStart) ∧ service.StartFails fault := by
  have fails : (startAll arrivals services).2 = .error fault ↔
      services.mapM Service.start = .error fault := by
    rw [result_startAll]
    cases services.mapM Service.start <;> simp [Except.map]
  rw [fails, Schema.mapM_eq_error_iff]
  simp only [Service.succeeds_start_iff, Service.start_eq_error_iff]

theorem signs_startAll (arrivals : String → List Service.Arrival) (services : List Service) :
    match (startAll arrivals services).2 with
    | .error _ => (startAll arrivals services).1.map Service.sign = services.map Service.sign
    | .ok () => (∀ service ∈ services, service.isRunning = false) ∧
        (startAll arrivals services).1.map Service.sign =
          services.map fun service => (service.name, true) := by
  induction services with
  | nil => exact ⟨List.forall_mem_nil _, rfl⟩
  | cons service rest ih =>
      cases result : service.start with
      | error fault => rw [startAll_cons_of_error result]
      | ok started =>
          obtain ⟨⟨idle, _⟩, _⟩ := Service.start_eq_ok result
          obtain ⟨same, signs⟩ := startAll_cons_of_ok arrivals rest result
          rw [same, signs]
          cases others : (startAll arrivals rest).2 with
          | ok =>
              rw [others] at ih
              exact ⟨List.forall_mem_cons.mpr ⟨idle, ih.1⟩, congrArg (_ :: ·) ih.2⟩
          | error fault =>
              rw [others] at ih
              rw [List.map_cons, Service.sign, idle]
              exact congrArg (_ :: ·) ih

theorem signs_shutdown (registry : Registry) :
    registry.shutdown.1.signs = registry.names.map (·, false) := by
  show ((registry.services.map Service.stop).map Prod.fst).map Service.sign = _
  rw [names, List.map_map, List.map_map, List.map_map]
  exact List.map_congr_left fun service _ => service.sign_stop

/-- Stopping fails exactly if services time out, and tells each of them. -/
theorem result_shutdown (registry : Registry) :
    registry.shutdown.2 =
      if registry.stalled = [] then .ok ()
      else .error (.multiple (registry.stalled.map .shutdownTimeout)) := by
  have faults :
      ((registry.services.map Service.stop).filterMap fun stop =>
        ListenerFault.ofResult? stop.2) = registry.stalled.map ListenerFault.shutdownTimeout := by
    rw [List.filterMap_map, stalled, List.map_map, ← List.filterMap_eq_map, List.filterMap_filter]
    exact List.filterMap_congr fun service _ => service.fault_stop
  rw [shutdown, faults]
  cases registry.stalled <;> rfl

/-- If a service does not start, the first one that does not gives the fault, and then the same
services are running as before the call, wherever clients came in between. Without a fault no service
was running before and all are running afterwards. Stopping leaves none running. It fails only with
timeouts, one for each service that is not stopped in time. -/
theorem start_all_or_nothing_shutdown_all (registry : Registry)
    (arrivals : String → List Service.Arrival) :
    let (after, result) := registry.start arrivals
    (∀ fault, result = .error fault ↔
      ∃ before service behind, registry.services = before ++ service :: behind ∧
        (∀ earlier ∈ before, earlier.CanStart) ∧ service.StartFails fault) ∧
      (match result with
        | .error _ => after.signs = registry.signs
        | .ok () => registry.signs = registry.names.map (·, false) ∧
            after.signs = registry.names.map (·, true)) ∧
      registry.shutdown.1.signs = registry.names.map (·, false) ∧
      registry.shutdown.2 =
        if registry.stalled = [] then .ok ()
        else .error (.multiple (registry.stalled.map .shutdownTimeout)) := by
  have after := signs_startAll arrivals registry.services
  refine ⟨fun fault => startAll_eq_error_iff, ?_, signs_shutdown registry,
    result_shutdown registry⟩
  dsimp only [start, signs]
  cases result : (startAll arrivals registry.services).2 with
  | error fault => rwa [result] at after
  | ok =>
      rw [result] at after
      rw [names, List.map_map, List.map_map]
      refine ⟨List.map_congr_left fun service listed => ?_, after.2⟩
      exact congrArg (Prod.mk service.name) (after.1 service listed)

-- the requests that stall the listeners of two services do not keep them running
example :
    let registry : Registry :=
      ⟨[{ name := "a" }, { name := "b" }, { name := "c", binding := .error "taken" }]⟩
    (registry.start fun _ => [.stalled]).1.signs = [("a", false), ("b", false), ("c", false)] := by
  decide

end Registry

end ApiMock
