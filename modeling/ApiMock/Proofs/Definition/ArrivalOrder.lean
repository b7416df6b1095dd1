import ApiMock.Proofs.Definition.Run
import Mathlib.Data.List.Count

/-!
# The order of requests

Without sequences a tree takes no notice of its counters: every request goes the same way and gets
the same answer whenever it comes. So the tree that is left by a list of requests has counted how
many of them went through each definition, and their order is lost.
-/

set_option autoImplicit false

namespace ApiMock

/-- No definition of the tree replies in turn. -/
def Definition.SequenceFree (definition : Definition) : Prop :=
  ∀ place node, definition.node? place = some node →
    ∀ position children, node.strategy ≠ .dispatch (.sequence position) children

variable {request : Request} {definition other child : Definition} {dispatcher : Dispatcher}
  {children : List (String × Definition)} {position : Nat} {place : Place}

/-! ## Trees that differ in their counters -/

namespace Definition

theorem verify_reset (request : Request) (definition : Definition) :
    definition.reset.verify request = definition.verify request := by
  rw [reset_eq]
  rfl

theorem strategyFailures_reset (definition : Definition) :
    definition.reset.strategyFailures = definition.strategyFailures := by
  rw [reset_eq, strategyFailures, strategyFailures]
  cases definition.strategy <;> rw [Strategy.reset]

theorem sequenceFree_iff : definition.SequenceFree ↔
    (∀ position children, definition.strategy ≠ .dispatch (.sequence position) children) ∧
      ∀ child ∈ definition.strategy.children, child.2.SequenceFree :=
  forall_node_iff

theorem SequenceFree.reset (free : definition.SequenceFree) : definition.reset.SequenceFree := by
  intro place node found position children strategy
  rw [node?_reset, Option.map_eq_some_iff] at found
  obtain ⟨node, found, rfl⟩ := found
  rw [reset_eq] at strategy
  cases own : node.strategy with
  | dispatch dispatcher children =>
      rw [own, Strategy.reset_dispatch] at strategy
      cases dispatcher with
      | sequence next => exact free place node found next children own
      | _ => cases strategy
  | _ => rw [own, Strategy.reset] at strategy; cases strategy

theorem sequenceFree_of_reset (free : definition.reset.SequenceFree) :
    definition.SequenceFree := by
  intro place node found position children strategy
  have below : definition.reset.node? place = some node.reset := by
    rw [node?_reset, found, Option.map_some]
  refine free place node.reset below 0 (children.map fun child => (child.1, child.2.reset)) ?_
  rw [reset_eq, strategy]
  exact Strategy.reset_dispatch

end Definition

namespace Dispatcher

theorem choose?_reset (free : ∀ position, dispatcher ≠ .sequence position) :
    dispatcher.reset.choose? request (children.map fun child => (child.1, child.2.reset)) =
      dispatcher.choose? request children := by
  cases dispatcher with
  | sequence position => exact absurd rfl (free position)
  | uri => simp only [reset, choose?, List.findIdx?_map, Function.comp_def]
  | method => simp only [reset, choose?, List.findIdx?_map, Function.comp_def]
  | request => simp only [reset, choose?, List.findIdx?_map, Function.comp_def,
      Definition.verify_reset]

theorem childFailures_reset : dispatcher.reset.childFailures request child.reset =
    dispatcher.childFailures request child := by
  cases dispatcher with
  | request => exact Definition.strategyFailures_reset child
  | _ => exact Definition.verify_reset request child

theorem unhandledFailures_reset :
    dispatcher.reset.unhandledFailures request
        (children.map fun child => (child.1, child.2.reset)) =
      dispatcher.unhandledFailures request children := by
  cases dispatcher with
  | request => simp only [reset, unhandledFailures, List.flatMap_map, Definition.verify_reset]
  | _ => rfl

theorem unhandledStatus_reset : dispatcher.reset.unhandledStatus = dispatcher.unhandledStatus := by
  cases dispatcher <;> rfl

end Dispatcher

namespace Definition

theorem choice?_reset (free : definition.SequenceFree) :
    definition.reset.choice? request = definition.choice? request := by
  rw [choice?, choice?, reset_eq]
  cases strategy : definition.strategy with
  | dispatch dispatcher children =>
      rw [Strategy.reset_dispatch]
      refine Dispatcher.choose?_reset fun position sequence => ?_
      exact free [] definition rfl position children (sequence ▸ strategy)
  | _ => rw [Strategy.reset]

theorem reply_response (request : Request) (definition : Definition) :
    (definition.reply request).response = (definition.strategy.reply request).response := by
  rw [reply_eq]
  rfl

theorem reply_failures (request : Request) (definition : Definition) :
    (definition.reply request).failures = (definition.strategy.reply request).failures := by
  rw [reply_eq]
  rfl

/-- What a request is answered with does not depend on counters, and neither does its route. -/
theorem reply_reset (request : Request) (free : definition.SequenceFree) :
    (definition.reset.reply request).response = (definition.reply request).response ∧
      (definition.reset.reply request).failures = (definition.reply request).failures ∧
      definition.reset.route request = definition.route request := by
  induction definition using inductionOnChoice request with
  | unchosen definition choice =>
      have resetChoice := (choice?_reset free).trans choice
      rw [reply_response, reply_response, reply_failures, reply_failures,
        route_of_unchosen choice, route_of_unchosen resetChoice, reset_eq]
      cases strategy : definition.strategy with
      | dispatch dispatcher children =>
          have unchosen := (choice?_of_dispatch strategy).symm.trans choice
          have resetUnchosen : dispatcher.reset.choose? request
              (children.map fun child => (child.1, child.2.reset)) = none := by
            rw [Dispatcher.choose?_reset, unchosen]
            exact fun position sequence =>
              free [] definition rfl position children (sequence ▸ strategy)
          rw [Strategy.reset_dispatch, Strategy.reply_of_unchosen unchosen,
            Strategy.reply_of_unchosen resetUnchosen, Dispatcher.unhandledStatus_reset,
            Dispatcher.unhandledFailures_reset]
          exact ⟨rfl, rfl, rfl⟩
      | _ =>
          rw [Strategy.reset]
          exact ⟨rfl, rfl, rfl⟩
  | chosen definition dispatcher children position key child strategy chosen found ih =>
      obtain ⟨here, below⟩ := sequenceFree_iff.mp free
      rw [strategy] at here below
      obtain ⟨response, failures, route⟩ := ih (below _ (List.mem_of_getElem? found))
      have choice := (choice?_of_dispatch strategy).trans chosen
      have resetStrategy : definition.reset.strategy = .dispatch dispatcher.reset
          (children.map fun child => (child.1, child.2.reset)) := by
        rw [reset_eq, strategy]
        exact Strategy.reset_dispatch
      have resetFound : (children.map fun child => (child.1, child.2.reset))[position]? =
          some (key, child.reset) := by
        rw [List.getElem?_map, found, Option.map_some]
      have resetChosen : dispatcher.reset.choose? request
          (children.map fun child => (child.1, child.2.reset)) = some position := by
        rw [Dispatcher.choose?_reset, chosen]
        exact fun position sequence => here position children (sequence ▸ rfl)
      rw [reply_of_chosen strategy chosen found,
        reply_of_chosen resetStrategy resetChosen resetFound,
        route_of_chosen choice (child?_of_dispatch strategy found),
        route_of_chosen ((choice?_reset free).trans choice)
          (child?_of_dispatch resetStrategy resetFound),
        Dispatcher.childFailures_reset, response, failures, route]
      exact ⟨rfl, rfl, rfl⟩

end Definition

/-! ## Trees with the same counters -/

theorem Dispatcher.eq_of_reset_eq {other : Dispatcher}
    (free : ∀ position, dispatcher ≠ .sequence position)
    (otherFree : ∀ position, other ≠ .sequence position)
    (same : dispatcher.reset = other.reset) : dispatcher = other := by
  cases dispatcher with
  | sequence position => exact absurd rfl (free position)
  | _ =>
      cases other with
      | sequence position => exact absurd rfl (otherFree position)
      | _ => exact same

theorem Strategy.children_eq_of_reset_eq {strategy other : Strategy}
    (same : strategy.reset = other.reset)
    (below : ∀ {position : Nat} {key : String} {child otherChild : Definition},
      strategy.children[position]? = some (key, child) →
      other.children[position]? = some (key, otherChild) →
      child.reset = otherChild.reset → child = otherChild) :
    strategy.children = other.children := by
  refine List.ext_getElem? fun position => ?_
  have alike := congrArg (·.children[position]?) same
  simp only [children_reset, List.getElem?_map] at alike
  cases found : strategy.children[position]? with
  | none =>
      rw [found, Option.map_none, eq_comm, Option.map_eq_none_iff] at alike
      exact alike.symm
  | some entry =>
      rw [found, Option.map_some, eq_comm, Option.map_eq_some_iff] at alike
      obtain ⟨⟨key, otherChild⟩, otherFound, alike⟩ := alike
      obtain ⟨rfl, resets⟩ := Prod.mk.inj alike
      rw [otherFound, ← below found otherFound resets.symm]

/-- Strategies that differ in what lies below them only are the same if the children are. -/
theorem Strategy.eq_of_reset_eq {strategy other : Strategy}
    (free : ∀ position children, strategy ≠ .dispatch (.sequence position) children)
    (otherFree : ∀ position children, other ≠ .dispatch (.sequence position) children)
    (same : strategy.reset = other.reset) (children : strategy.children = other.children) :
    strategy = other := by
  cases strategy with
  | dispatch dispatcher below =>
      cases other with
      | dispatch otherDispatcher otherBelow =>
          have dispatchers : dispatcher.reset = otherDispatcher.reset := by
            rw [reset_dispatch, reset_dispatch] at same
            exact (Strategy.dispatch.inj same).1
          have equal : dispatcher = otherDispatcher :=
            Dispatcher.eq_of_reset_eq
              (fun position sequence => free position below (sequence ▸ rfl))
              (fun position sequence => otherFree position otherBelow (sequence ▸ rfl)) dispatchers
          rw [equal, show below = otherBelow from children]
      | _ => rw [reset_dispatch, reset] at same; cases same
  | _ =>
      cases other with
      | dispatch => rw [reset_dispatch, reset] at same; cases same
      | _ => simp_all only [reset]

namespace Definition

/-- Two trees without sequences that differ in their counters only are the same if these are. -/
theorem eq_of_reset_eq (free : definition.SequenceFree) (same : definition.reset = other.reset)
    (calls : ∀ place, (definition.node? place).map Definition.calls =
      (other.node? place).map Definition.calls) : definition = other := by
  induction definition generalizing other with
  | node definition ih =>
      have otherFree : other.SequenceFree := sequenceFree_of_reset (same ▸ free.reset)
      obtain ⟨here, below⟩ := sequenceFree_iff.mp free
      have counts : definition.calls = other.calls := Option.some.inj (calls [])
      rw [reset_eq, reset_eq, Definition.mk.injEq] at same
      obtain ⟨paths, constraints, resets, expected, _⟩ := same
      have children : definition.strategy.children = other.strategy.children := by
        refine Strategy.children_eq_of_reset_eq resets fun {position} _ _ _ found other resets => ?_
        have member := List.mem_of_getElem? found
        refine ih _ member (below _ member) resets fun place => ?_
        have deeper := calls (position :: place)
        rwa [node?_cons, node?_cons, child?_eq_some_iff.mpr ⟨_, found⟩,
          child?_eq_some_iff.mpr ⟨_, other⟩] at deeper
      have strategies :=
        Strategy.eq_of_reset_eq here (sequenceFree_iff.mp otherFree).1 resets children
      cases definition
      cases other
      exact (Definition.mk.injEq ..).mpr ⟨paths, constraints, strategies, expected, counts⟩

theorem SequenceFree.of_reset_eq (free : definition.SequenceFree)
    (same : definition.reset = other.reset) : other.SequenceFree :=
  sequenceFree_of_reset (same ▸ free.reset)

theorem route_eq_of_reset_eq (free : definition.SequenceFree)
    (same : definition.reset = other.reset) : definition.route request = other.route request := by
  rw [← (reply_reset request free).2.2, ← (reply_reset request (free.of_reset_eq same)).2.2, same]

theorem execute_eq_of_reset_eq (request : Request) (free : definition.SequenceFree)
    (same : definition.reset = other.reset) :
    (definition.execute request).response = (other.execute request).response ∧
      (definition.execute request).failures = (other.execute request).failures := by
  obtain ⟨response, failures, _⟩ := reply_reset request free
  obtain ⟨otherResponse, otherFailures, _⟩ := reply_reset request (free.of_reset_eq same)
  constructor
  · show (definition.reply request).response = (other.reply request).response
    rw [← response, ← otherResponse, same]
  · show definition.verify request ++ (definition.reply request).failures =
      other.verify request ++ (other.reply request).failures
    rw [← verify_reset, ← failures, ← verify_reset request other, ← otherFailures, same]

/-! ## Lists of requests -/

/-- The tree after some requests. -/
def replyAll (requests : List Request) (definition : Definition) : Definition :=
  requests.foldl (fun tree request => (tree.reply request).after) definition

theorem reset_replyAll (requests : List Request) (definition : Definition) :
    (definition.replyAll requests).reset = definition.reset :=
  List.foldlRecOn (motive := fun tree => tree.reset = definition.reset) requests _ rfl
    fun tree same request _ => (reset_reply_after request tree).trans same

theorem calls_reply_after (request : Request) (place : Place) (definition : Definition) :
    ((definition.reply request).after.node? place).map Definition.calls =
      ((definition.node? place).map Definition.calls).map
        (· + if place <+: definition.route request then 1 else 0) := by
  by_cases on : place <+: definition.route request
  · obtain ⟨node, found⟩ := exists_node_of_prefix_route on
    obtain ⟨after, _⟩ := node?_reply_after_of_prefix on found
    rw [after, found, Option.map_some, Option.map_some, Option.map_some, reply_after_calls,
      if_pos on]
  · have kept := node?_reply_after_of_not_prefix on
    rw [kept]
    simp only [if_neg on, Nat.add_zero, Option.map_id']

/-- Every definition counts the requests that go through it, wherever they stand in the list. -/
theorem calls_replyAll (free : definition.SequenceFree) (requests : List Request) (place : Place) :
    ((definition.replyAll requests).node? place).map Definition.calls =
      ((definition.node? place).map Definition.calls).map
        (· + requests.countP fun request => place <+: definition.route request) := by
  induction requests generalizing definition with
  | nil => simp only [replyAll, List.foldl_nil, List.countP_nil, Nat.add_zero, Option.map_id']
  | cons request rest ih =>
      have same : definition.reset = (definition.reply request).after.reset :=
        (reset_reply_after request definition).symm
      have routes : ∀ later : Request,
          definition.route later = (definition.reply request).after.route later :=
        fun later => route_eq_of_reset_eq free same
      rw [replyAll, List.foldl_cons, ← replyAll, ih (free.of_reset_eq same), calls_reply_after,
        Option.map_map, List.countP_cons]
      simp only [routes, decide_eq_true_eq, Function.comp_def, Nat.add_assoc, Nat.add_comm]

theorem replyAll_eq_of_perm (free : definition.SequenceFree) {requests permuted : List Request}
    (perm : permuted.Perm requests) :
    definition.replyAll permuted = definition.replyAll requests := by
  have resets : (definition.replyAll permuted).reset = (definition.replyAll requests).reset := by
    rw [reset_replyAll, reset_replyAll]
  refine eq_of_reset_eq (free.of_reset_eq (reset_replyAll permuted definition).symm) resets ?_
  intro place
  rw [calls_replyAll free, calls_replyAll free]
  simp only [perm.countP_eq]

end Definition

end ApiMock
