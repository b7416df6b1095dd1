import ApiMock.Proofs.Definition.ArrivalOrder
import ApiMock.Proofs.Service.Run

/-!
# The order in which clients are served

A service answers the requests of its clients one at a time, in the order in which they happen to
arrive. If its active definition has no sequence, the order shows in the list of collected failures
only.
-/

set_option autoImplicit false

namespace ApiMock.Service

/-- Serves requests one after the other: their responses with their failures, and the service
afterwards. -/
def serveAll : List Request → Service → List (Response × List Failure) × Service
  | [], service => ([], service)
  | request :: rest, service =>
    let execution := service.serve request
    let (answers, after) := serveAll rest execution.after
    ((execution.response, execution.failures) :: answers, after)

/-- What a service that has served nothing else answers to a request. -/
def answer (service : Service) (request : Request) : Response × List Failure :=
  ((service.active.execute request).response, (service.active.execute request).failures)

/-- The service after requests that left its active definition in a state and had some failures. -/
def servedWith (service : Service) (definition : Definition) (failures : List Failure) : Service :=
  { service.withActive definition with failures := service.failures ++ failures }

variable {service : Service} {definition other : Definition} {failures later : List Failure}
  {requests permuted : List Request}

@[simp] theorem active_servedWith :
    (service.servedWith definition failures).active = definition := by
  cases replaced : service.replacement <;> simp [servedWith, withActive, active, replaced]

@[simp] theorem failures_servedWith :
    (service.servedWith definition failures).failures = service.failures ++ failures := rfl

@[simp] theorem name_servedWith : (service.servedWith definition failures).name = service.name :=
  withActive_name

theorem servedWith_self : service.servedWith service.active [] = service := by
  cases replaced : service.replacement <;> cases service <;>
    simp_all [servedWith, withActive, active]

theorem servedWith_servedWith :
    (service.servedWith definition failures).servedWith other later =
      service.servedWith other (failures ++ later) := by
  cases replaced : service.replacement <;> simp [servedWith, withActive, replaced]

theorem serve_eq (service : Service) (request : Request) :
    (service.serve request).after =
        service.servedWith (service.active.reply request).after (service.answer request).2 ∧
      ((service.serve request).response, (service.serve request).failures) =
        service.answer request :=
  ⟨rfl, rfl⟩

/-- Without sequences every request gets the answer that it would have got at first. -/
theorem serveAll_eq (free : service.active.SequenceFree) (requests : List Request) :
    service.serveAll requests =
      (requests.map service.answer,
        service.servedWith (service.active.replyAll requests)
          (requests.flatMap fun request => (service.answer request).2)) := by
  induction requests generalizing service with
  | nil => exact congrArg (Prod.mk []) servedWith_self.symm
  | cons request rest ih =>
      obtain ⟨after, answered⟩ := serve_eq service request
      have same : service.active.reset = (service.serve request).after.active.reset := by
        rw [after, active_servedWith, Definition.reset_reply_after]
      have answers : (service.serve request).after.answer = service.answer := by
        funext later
        obtain ⟨response, failures⟩ := Definition.execute_eq_of_reset_eq later free same
        rw [answer, answer, response, failures]
      rw [serveAll, ih (free.of_reset_eq same), answers, answered, after, servedWith_servedWith,
        active_servedWith]
      rfl

/-- Without sequences it does not matter in which order requests arrive: each of them is answered in
the same way, all definitions count the same calls, and the same failures are reported at the end,
those of the requests in the order of the requests. -/
theorem serveAll_of_perm (free : service.active.SequenceFree) (perm : permuted.Perm requests) :
    let inOrder := service.serveAll requests
    let reordered := service.serveAll permuted
    let failures (served : List Request) : List Failure :=
      service.failures ++ served.flatMap fun request => (service.answer request).2
    let reports (served : List Request) : List ServiceFailure :=
      (failures served ++ inOrder.2.active.contextFailures).map (ServiceFailure.mk service.name)
    (inOrder.1 = requests.map service.answer ∧ reordered.1 = permuted.map service.answer) ∧
      (∀ place, (reordered.2.active.node? place).map Definition.calls =
        (inOrder.2.active.node? place).map Definition.calls) ∧
      reordered.2.active.contextFailures = inOrder.2.active.contextFailures ∧
      reordered.2 = { inOrder.2 with failures := failures permuted } ∧
      inOrder.2.contextFailures = reports requests ∧
      reordered.2.contextFailures = reports permuted := by
  have trees := Definition.replyAll_eq_of_perm free perm
  rw [serveAll_eq free requests, serveAll_eq free permuted, trees]
  refine ⟨⟨rfl, rfl⟩, fun _ => rfl, rfl, rfl, ?_, ?_⟩
  · rw [contextFailures, failures_servedWith, name_servedWith]
  · rw [contextFailures, failures_servedWith, name_servedWith, active_servedWith, active_servedWith]

theorem serveAll_of_perm_of_three_requests :
    let variant : Definition :=
      { path := "$.GET.0", constraints := [], strategy := .unset, expectedCalls := some 1 }
    let child : Definition :=
      { path := "$.GET", constraints := [], strategy := .byRequest [variant], expectedCalls := none }
    let tree : Definition :=
      { path := "$", constraints := [], strategy := .byMethod [("GET", child)]
        expectedCalls := none }
    let service : Service := { name := "orders", default := tree }
    let post : Request := { method := "POST" }
    service.active.SequenceFree ∧ [{}, post, {}].Perm [{}, {}, post] ∧
      (service.serveAll [{}, post, {}]).2.contextFailures =
        [.missingStrategy "$.GET.0", .unhandled post.dump, .missingStrategy "$.GET.0",
          .callCount "$.GET.0" 1 2].map (ServiceFailure.mk "orders") := by
  intro variant child tree service post
  have free : service.active.SequenceFree := by
    refine Definition.sequenceFree_iff.mpr ⟨nofun, List.forall_mem_singleton.mpr ?_⟩
    refine Definition.sequenceFree_iff.mpr ⟨nofun, List.forall_mem_singleton.mpr ?_⟩
    exact Definition.sequenceFree_iff.mpr ⟨nofun, nofun⟩
  have perm : [{}, post, {}].Perm [{}, {}, post] := .cons _ (.swap _ _ _)
  obtain ⟨_, _, _, _, _, reports⟩ := serveAll_of_perm free perm
  have failures : service.failures ++
      ([{}, post, {}].flatMap fun request => (service.answer request).2) ++
        (service.serveAll [{}, {}, post]).2.active.contextFailures =
      [.missingStrategy "$.GET.0", .unhandled post.dump, .missingStrategy "$.GET.0",
        .callCount "$.GET.0" 1 2] := by
    dsimp only [service, tree, child, variant, post]
    rfl
  exact ⟨free, perm, reports.trans (congrArg _ failures)⟩

end ApiMock.Service
