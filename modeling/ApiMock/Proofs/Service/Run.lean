import ApiMock.Proofs.Definition.Run
import ApiMock.Service

/-!
# Runs of services

A service serves requests, its definition is replaced and taken back, and contexts begin and end. As
long as no replacement is active, requests count in the default definition; the counts stay there
while a replacement is active. Whatever happened, the default definition without its counts remains
the same, and it is active again after the replacement is taken back and a new context has begun.
-/

set_option autoImplicit false

namespace ApiMock.Service

inductive Event where
  | serve (request : Request)
  | setDefinition (definition : Definition)
  | resetDefinition
  | resetContext
  /-- The failures of the context are asked for. -/
  | endContext

def perform (service : Service) : Event → Service
  | .serve request => (service.serve request).after
  | .setDefinition definition => service.setDefinition definition
  | .resetDefinition => service.resetDefinition
  | .resetContext => service.resetContext
  | .endContext => service

def run (history : List Event) (service : Service) : Service := history.foldl perform service

/-- What is seen of a service that answers requests: the responses, and the failures at the end of
the context. -/
def observe : List Request → Service → List Response × List ServiceFailure
  | [], service => ([], service.contextFailures)
  | request :: rest, service =>
    let execution := service.serve request
    let (responses, failures) := observe rest execution.after
    (execution.response :: responses, failures)

/-- A service as it is made, with a definition that has not been called. -/
structure IsNew (service : Service) : Prop where
  replacement : service.replacement = none
  failures : service.failures = []
  fresh : service.default.Fresh

variable {service : Service} {definition : Definition}

theorem run_append (before after : List Event) :
    service.run (before ++ after) = (service.run before).run after := List.foldl_append

theorem run_concat (history : List Event) (event : Event) :
    service.run (history ++ [event]) = (service.run history).perform event := run_append _ _

theorem run_preserves (invariant : Service → Prop) {history : List Event}
    (start : invariant service)
    (step : ∀ reached, ∀ event ∈ history, invariant reached → invariant (reached.perform event)) :
    invariant (service.run history) :=
  List.foldlRecOn history _ start fun reached holds event member => step reached event member holds

/-! ## The active definition -/

theorem withActive_name : (service.withActive definition).name = service.name := by
  rw [withActive]; split <;> rfl

theorem withActive_of_replaced (replaced : service.replacement.isSome) :
    service.withActive definition = service.setDefinition definition := by
  obtain ⟨replacement, found⟩ := Option.isSome_iff_exists.mp replaced
  rw [withActive, found, setDefinition]

theorem name_perform (service : Service) (event : Event) :
    (service.perform event).name = service.name := by
  cases event with
  | serve | resetContext => exact withActive_name
  | _ => rfl

theorem name_run (history : List Event) (service : Service) :
    (service.run history).name = service.name :=
  run_preserves (·.name = service.name) rfl fun reached event _ same =>
    (name_perform reached event).trans same

/-! ## The default definition -/

theorem default_perform (replaced : service.replacement.isSome) {event : Event}
    (stays : event ≠ .resetDefinition) :
    (service.perform event).replacement.isSome ∧
      (service.perform event).default = service.default := by
  cases event with
  | resetDefinition => exact absurd rfl stays
  | setDefinition definition => exact ⟨rfl, rfl⟩
  | endContext => exact ⟨replaced, rfl⟩
  | serve | resetContext =>
      simp only [perform, serve, Execution.map, resetContext, withActive_of_replaced replaced]
      exact ⟨rfl, rfl⟩

theorem default_run_of_setDefinition (service : Service) (definition : Definition)
    {history : List Event} (stays : .resetDefinition ∉ history) :
    (service.run (.setDefinition definition :: history)).default = service.default := by
  have kept : ((service.setDefinition definition).run history).replacement.isSome ∧
      ((service.setDefinition definition).run history).default = service.default := by
    refine run_preserves (fun reached => reached.replacement.isSome ∧
      reached.default = service.default) ⟨rfl, rfl⟩ fun reached event member kept => ?_
    obtain ⟨replaced, same⟩ :=
      default_perform kept.1 fun (back : event = .resetDefinition) => stays (back ▸ member)
    exact ⟨replaced, same.trans kept.2⟩
  exact kept.2

/-- The service with its default definition active again, in a new context. -/
def restore (service : Service) : Service := service.resetDefinition.resetContext

theorem restore_eq : service.restore =
    { service with default := service.default.reset, replacement := none, failures := [] } := rfl

theorem IsNew.restore_eq_self (new : service.IsNew) : service.restore = service := by
  rw [restore_eq, new.fresh.reset_eq_self, ← new.replacement, ← new.failures]

theorem restore_withActive (same : definition.reset = service.active.reset) :
    (service.withActive definition).restore = service.restore := by
  -- a replacement is forgotten, and the default definition is set back anyway
  cases replaced : service.replacement with
  | some replacement => rw [withActive, replaced]; rfl
  | none =>
      rw [active, replaced, Option.getD_none] at same
      simp only [withActive, replaced, restore_eq, same]

theorem restore_perform (service : Service) (event : Event) :
    (service.perform event).restore = service.restore := by
  cases event with
  | serve request => exact restore_withActive (Definition.reset_reply_after request service.active)
  | resetContext => exact restore_withActive (Definition.reset_reset service.active)
  | _ => rfl

theorem restore_run (history : List Event) (service : Service) :
    (service.run history).restore = service.restore :=
  run_preserves (·.restore = service.restore) rfl fun reached event _ same =>
    (restore_perform reached event).trans same

/-- Whatever happened to a service, taking back the replacement and beginning a new context leaves
it with its default definition, not called, and without failures: a service that was new is new
again and shows what it would have shown then. In between the default definition keeps its counts
while it is replaced. -/
theorem run_restores (service : Service) (history : List Event) :
    let restored := service.run (history ++ [.resetDefinition, .resetContext])
    restored = { service with
        default := service.default.reset, replacement := none, failures := [] } ∧
      restored.active.Fresh ∧
      (service.IsNew →
        restored = service ∧ ∀ requests, restored.observe requests = service.observe requests) ∧
      ∀ definition later, .resetDefinition ∉ later →
        (service.run (history ++ .setDefinition definition :: later ++ [.resetDefinition])).active =
          (service.run history).default := by
  intro restored
  have same : restored = service.restore := (run_append _ _).trans (restore_run history service)
  refine ⟨same, ?_, fun new => ?_, fun definition later stays => ?_⟩
  · rw [same]
    exact Definition.fresh_reset service.default
  · have again : restored = service := same.trans new.restore_eq_self
    exact ⟨again, fun requests => by rw [again]⟩
  · rw [run_concat, run_append]
    exact default_run_of_setDefinition _ definition stays

theorem run_restores_of_replaced_sequence :
    let service : Service :=
      { name := "orders"
        default :=
          { path := "$", constraints := [], strategy := .inSequence [.nop, .nop]
            expectedCalls := some 2 } }
    let history : List Event := [.serve {}, .setDefinition .nop, .serve {}, .resetContext]
    service.IsNew ∧ (service.run history).default.calls = 1 ∧
      service.run (history ++ [.resetDefinition, .resetContext]) = service := by
  intro service history
  have new : service.IsNew := ⟨rfl, rfl, Definition.fresh_iff_reset_eq_self.mpr rfl⟩
  exact ⟨new, rfl, ((run_restores service history).2.2.1 new).1⟩

end ApiMock.Service
