import ApiMock.Proofs.Service.Run
import Mathlib.Data.List.DropRight

/-!
# The log of a service

The failures that a service reports at the end of a context are read off the log of the context:
those of each request in the order in which they were served, each from the definition that was
active then, and after them those of the counted calls.
-/

set_option autoImplicit false

namespace ApiMock.Service

/-- The events of a history, each with the service that meets it. -/
def log : List Event → Service → List (Service × Event)
  | [], _ => []
  | event :: rest, service => (service, event) :: log rest (service.perform event)

def Event.isReset : Event → Bool
  | resetContext => true
  | _ => false

/-- The part of the log behind the last beginning of a context. -/
def contextLog (history : List Event) (service : Service) : List (Service × Event) :=
  (service.log history).rtakeWhile fun entry => !entry.2.isReset

def loggedFailures : Service × Event → List Failure
  | (service, .serve request) => (service.active.execute request).failures
  | _ => []

variable {service : Service}

theorem log_concat (history : List Event) (event : Event) (service : Service) :
    service.log (history ++ [event]) = service.log history ++ [(service.run history, event)] := by
  induction history generalizing service with
  | nil => rfl
  | cons first rest ih => exact congrArg _ (ih (service.perform first))

theorem failures_perform (service : Service) (event : Event) :
    (service.perform event).failures =
      if event.isReset then [] else service.failures ++ loggedFailures (service, event) := by
  cases event with
  | serve | resetContext => rfl
  | _ => exact (List.append_nil _).symm

theorem failures_run (start : service.failures = []) (history : List Event) :
    (service.run history).failures = (service.contextLog history).flatMap loggedFailures := by
  -- the log grows at its end, and a new context empties the part that counts
  induction history using List.reverseRecOn with
  | nil => exact start
  | append_singleton history event ih =>
      rw [run_concat, failures_perform, contextLog, log_concat, List.rtakeWhile_concat]
      cases event.isReset with
      | true => rfl
      | false =>
          rw [← contextLog]
          simp [ih]

theorem run_append_endContext (before after : List Event) (service : Service) :
    service.run (before ++ .endContext :: after) = service.run (before ++ after) := by
  rw [run_append, run_append]
  rfl

/-- At the end of a context exactly the failures that are logged for it are reported, in order and
with the name of the service, and after them those of the calls of the active definition. Asking for
them changes nothing. -/
theorem contextFailures_eq_logged (start : service.failures = []) (history : List Event) :
    (service.run history).contextFailures =
        ((service.contextLog history).flatMap loggedFailures ++
          (service.run history).active.contextFailures).map (ServiceFailure.mk service.name) ∧
      (∀ later, service.run (history ++ .endContext :: later) = service.run (history ++ later)) ∧
      (service.run (history ++ [.endContext])).contextFailures =
        (service.run history).contextFailures := by
  refine ⟨?_, fun later => run_append_endContext history later service, ?_⟩
  · rw [contextFailures, failures_run start, name_run]
  · rw [run_append_endContext, List.append_nil]

theorem contextFailures_eq_logged_of_replaced_definition :
    let unset (path : String) : Definition :=
      { path, constraints := [], strategy := .unset, expectedCalls := none }
    let tree (path : String) : Definition :=
      { path, constraints := [], strategy := .byRequest [unset path], expectedCalls := some 2 }
    let service : Service := { name := "orders", default := tree "$" }
    let history : List Event :=
      [.serve {}, .resetContext, .serve {}, .endContext, .setDefinition (tree "other"), .serve {}]
    service.failures = [] ∧
      (service.run history).contextFailures =
        [.missingStrategy "$", .missingStrategy "other", .callCount "other" 2 1].map
          (ServiceFailure.mk "orders") := by
  intro unset tree service history
  have start : service.failures = [] := rfl
  rw [(contextFailures_eq_logged start history).1]
  exact ⟨start, rfl⟩

end ApiMock.Service
