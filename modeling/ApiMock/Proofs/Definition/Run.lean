import ApiMock.Definition.Context
import ApiMock.Proofs.Definition.Chain

/-!
# Runs and fresh trees

A tree serves requests one after the other, contexts end and begin. Serving changes no more than
counters of calls and positions of sequences, and a new context sets all of them to zero: so the
tree is again what it was when it was made, whatever it served in between.
-/

set_option autoImplicit false

namespace ApiMock

/-- What happens to a tree. -/
inductive Operation where
  | execute (request : Request)
  | executeUnverified (request : Request)
  /-- The calls are compared with the expected ones. -/
  | endContext
  | reset

/-- A tree in a running context. -/
structure Running where
  definition : Definition
  /-- The requests of the context, each with the tree that met it. -/
  served : List (Definition × Request) := []

/-- The tree after an operation. Failures at the end of a context leave it as it is. -/
def Running.perform (running : Running) : Operation → Running
  | .execute request =>
    ⟨(running.definition.execute request).after, running.served ++ [(running.definition, request)]⟩
  | .executeUnverified request =>
    ⟨(running.definition.executeUnverified request).after,
      running.served ++ [(running.definition, request)]⟩
  | .endContext => running
  | .reset => { definition := running.definition.reset }

/-- The tree after a request, whether or not the root checked its constraints. -/
def Running.serve (request : Request) (running : Running) : Running :=
  ⟨(running.definition.reply request).after, running.served ++ [(running.definition, request)]⟩

namespace Definition

/-- The tree after a list of operations. -/
def run (operations : List Operation) (definition : Definition) : Running :=
  operations.foldl Running.perform { definition }

/-- What is seen of a tree that serves requests: their responses and failures, and the failures at
the end of the context. -/
def observe : List Request → Definition → List (Response × List Failure) × List Failure
  | [], definition => ([], definition.contextFailures)
  | request :: rest, definition =>
    let execution := definition.execute request
    let (answers, atEnd) := observe rest execution.after
    ((execution.response, execution.failures) :: answers, atEnd)

/-- All counters of a tree and all positions of its sequences are zero. -/
def Fresh (definition : Definition) : Prop :=
  ∀ place node, definition.node? place = some node →
    node.calls = 0 ∧
      ∀ position children, node.strategy = .dispatch (.sequence position) children → position = 0

/-- What each operation preserves holds after all of them. -/
theorem run_preserves (invariant : Running → Prop) {definition : Definition}
    (start : invariant { definition })
    (step : ∀ running operation, invariant running → invariant (running.perform operation))
    (operations : List Operation) : invariant (definition.run operations) :=
  List.foldlRecOn operations _ start fun running holds operation _ => step running operation holds

end Definition

theorem Running.countP_served_serve (counts : Definition × Request → Bool) (running : Running)
    (request : Request) :
    (running.serve request).served.countP counts =
      running.served.countP counts + if counts (running.definition, request) then 1 else 0 := by
  rw [serve, List.countP_append, List.countP_singleton]

/-! ## Resetting -/

variable {request : Request} {definition : Definition} {dispatcher : Dispatcher}
  {children : List (String × Definition)}

theorem Dispatcher.reset_advance : dispatcher.advance.reset = dispatcher.reset := by
  cases dispatcher <;> rfl

theorem resetChildren_eq_map :
    resetChildren children = children.map fun child => (child.1, child.2.reset) := by
  induction children with
  | nil => rfl
  | cons child rest ih => rw [resetChildren, ih, List.map_cons]

namespace Strategy

theorem reset_dispatch : (dispatch dispatcher children).reset =
    .dispatch dispatcher.reset (children.map fun child => (child.1, child.2.reset)) := by
  rw [reset, resetChildren_eq_map]

theorem children_reset (strategy : Strategy) :
    strategy.reset.children = strategy.children.map fun child => (child.1, child.2.reset) := by
  cases strategy with
  | dispatch => rw [reset_dispatch]; rfl
  | _ => rw [reset]; rfl

/-- Resetting does nothing to a strategy whose position and children it does nothing to. -/
theorem reset_eq_self {strategy : Strategy}
    (position : ∀ next children, strategy = .dispatch (.sequence next) children → next = 0)
    (each : ∀ child ∈ strategy.children, child.2.reset = child.2) : strategy.reset = strategy := by
  cases strategy with
  | dispatch dispatcher children =>
      have kept : children.map (fun child => (child.1, child.2.reset)) = children.map id :=
        List.map_congr_left fun child member => by rw [each child member]; rfl
      rw [reset_dispatch, kept, List.map_id]
      cases dispatcher with
      | sequence next => rw [position next children rfl]; rfl
      | _ => rfl
  | _ => rw [reset]

end Strategy

namespace Definition

theorem reset_eq (definition : Definition) :
    definition.reset = { definition with strategy := definition.strategy.reset, calls := 0 } := by
  cases definition
  rw [reset]

theorem node?_reset (place : Place) (definition : Definition) :
    definition.reset.node? place = (definition.node? place).map reset := by
  induction place generalizing definition with
  | nil => rfl
  | cons position place ih =>
      rw [node?_cons, node?_cons, child?, child?, reset_eq, Strategy.children_reset,
        List.getElem?_map]
      cases definition.strategy.children[position]? with
      | none => rfl
      | some child => exact ih child.2

theorem fresh_reset (definition : Definition) : definition.reset.Fresh := by
  intro place node found
  rw [node?_reset, Option.map_eq_some_iff] at found
  obtain ⟨node, _, rfl⟩ := found
  rw [reset_eq]
  refine ⟨rfl, fun position children strategy => ?_⟩
  cases own : node.strategy with
  | dispatch dispatcher children =>
      rw [own, Strategy.reset_dispatch] at strategy
      cases dispatcher <;> cases strategy
      rfl
  | _ => rw [own, Strategy.reset] at strategy; cases strategy

/-- What fresh trees have and requests preserve is preserved by every operation. -/
theorem perform_preserves {invariant : Running → Prop}
    (start : ∀ definition : Definition, definition.Fresh → invariant { definition })
    (serve : ∀ running request, invariant running → invariant (running.serve request))
    {running : Running} (operation : Operation) (holds : invariant running) :
    invariant (running.perform operation) := by
  cases operation with
  | execute request => exact serve running request holds
  | executeUnverified request => exact serve running request holds
  | endContext => exact holds
  | reset => exact start _ (fresh_reset running.definition)

theorem Fresh.reset_eq_self (fresh : definition.Fresh) : definition.reset = definition := by
  induction definition with
  | node definition ih =>
      obtain ⟨⟨calls, position⟩, below⟩ := forall_node_iff.mp fresh
      rw [reset_eq, Strategy.reset_eq_self position fun child member =>
        ih child member (below child member), ← calls]
      cases definition
      rfl

theorem fresh_iff_reset_eq_self : definition.Fresh ↔ definition.reset = definition :=
  ⟨Fresh.reset_eq_self, fun same => same ▸ fresh_reset definition⟩

theorem reset_reset (definition : Definition) : definition.reset.reset = definition.reset :=
  (fresh_reset definition).reset_eq_self

/-- A request leaves all as it is that a new context does not set back. -/
theorem reset_reply_after (request : Request) (definition : Definition) :
    (definition.reply request).after.reset = definition.reset := by
  induction definition using inductionOnChoice request with
  | unchosen definition choice => rw [reply_after_of_unchosen choice, reset_eq, reset_eq]
  | chosen definition dispatcher children position key child strategy chosen found ih =>
      have same : (children.set position (key, (child.reply request).after)).map
          (fun child => (child.1, child.2.reset)) =
            children.map fun child => (child.1, child.2.reset) :=
        map_set_of_eq found (congrArg (Prod.mk key) ih)
      rw [reply_of_chosen strategy chosen found, reset_eq, reset_eq definition, strategy,
        Strategy.reset_dispatch, Strategy.reset_dispatch, Dispatcher.reset_advance, same]

theorem reset_perform (running : Running) (operation : Operation) :
    (running.perform operation).definition.reset = running.definition.reset := by
  cases operation with
  | execute request =>
      rw [Running.perform, execute_after]
      exact reset_reply_after request _
  | executeUnverified request =>
      rw [Running.perform, executeUnverified_after]
      exact reset_reply_after request _
  | endContext => rfl
  | reset => exact reset_reset _

/-- Whatever a tree served, a new context begins with the tree as it was made, and shows what it
would have shown then. -/
theorem reset_run (fresh : definition.Fresh) (history : List Operation) :
    (definition.run history).definition.reset = definition ∧
      (∀ requests, (definition.run history).definition.reset.observe requests =
        definition.observe requests) ∧
      ∀ tree : Definition, tree.reset.Fresh ∧ tree.reset.reset = tree.reset := by
  have same : (definition.run history).definition.reset = definition := by
    refine run_preserves (fun running => running.definition.reset = definition) ?_ ?_ history
    · exact fresh.reset_eq_self
    · exact fun running operation holds => (reset_perform running operation).trans holds
  exact ⟨same, fun requests => by rw [same], fun tree => ⟨fresh_reset tree, reset_reset tree⟩⟩

theorem reset_run_of_served_steps :
    let tree : Definition :=
      { path := "$", constraints := [], strategy := .inSequence [.nop, .nop]
        expectedCalls := none }
    let history : List Operation := [.execute {}, .endContext, .executeUnverified {}, .execute {}]
    tree.Fresh ∧ (tree.run history).definition.calls = 3 ∧
      (tree.run history).definition.reset = tree := by
  intro tree history
  have fresh : tree.Fresh := fresh_iff_reset_eq_self.mpr rfl
  exact ⟨fresh, rfl, (reset_run fresh history).1⟩

end Definition

end ApiMock
