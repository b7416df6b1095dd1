import ApiMock.Proofs.Definition.Reply
import Mathlib.Data.List.Infix

/-!
# Chains of dispatch

A request runs down one chain of definitions: from the root to a child of each definition that
chooses one. Every definition on the chain counts the call once, every sequence on it with a step
left goes on to the next step, and the rest of the tree stays as it is.
-/

set_option autoImplicit false

namespace ApiMock

mutual

/-- The place at which the chain of a request ends. -/
def Definition.route (request : Request) : Definition → Place
  | ⟨_, _, strategy, _, _⟩ => strategy.route request

/-- The place below a strategy at which the chain of a request ends. -/
def Strategy.route (request : Request) : Strategy → Place
  | .dispatch dispatcher children =>
    match dispatcher.choose? request children with
    | none => []
    | some position => position :: routeAt request children position
  | .unset | .nop | .dropRequest | .constant .. | .template .. => []

/-- The place below the child at a position. -/
def routeAt (request : Request) : List (String × Definition) → Nat → Place
  | [], _ => []
  | (_, child) :: _, 0 => child.route request
  | _ :: rest, position + 1 => routeAt request rest position

end

/-- A chain goes from each definition to the child that it chooses, and ends at one that chooses
none. -/
inductive Chain (request : Request) : Definition → Place → Prop where
  | ends {definition} :
      (∀ dispatcher children, definition.strategy = .dispatch dispatcher children →
        ∀ position, ¬ dispatcher.Chooses request children position) →
      Chain request definition []
  | dispatches {definition dispatcher children position key child route} :
      definition.strategy = .dispatch dispatcher children →
      dispatcher.Chooses request children position →
      children[position]? = some (key, child) → Chain request child route →
      Chain request definition (position :: route)

/-- The dispatcher after a call: a sequence goes on if a step was left. -/
def Dispatcher.afterCall (steps : Nat) : Dispatcher → Dispatcher
  | sequence position => sequence (if position < steps then position + 1 else position)
  | dispatcher => dispatcher

/-- The second definition is the first one after one more call, whatever became of its children. -/
structure Definition.CalledOnce (before after : Definition) : Prop where
  path : after.path = before.path
  constraints : after.constraints = before.constraints
  expectedCalls : after.expectedCalls = before.expectedCalls
  calls : after.calls = before.calls + 1
  strategy : match before.strategy with
    | .dispatch dispatcher children =>
      ∃ called, after.strategy = .dispatch (dispatcher.afterCall children.length) called ∧
        called.map Prod.fst = children.map Prod.fst
    | strategy => after.strategy = strategy

/-- The second tree is the first one after one more call of each definition along a route. -/
structure CallsAlong (route : Place) (before after : Definition) : Prop where
  onRoute : ∀ place node, place <+: route → before.node? place = some node →
    ∃ called, after.node? place = some called ∧ node.CalledOnce called
  elsewhere : ∀ place, ¬ place <+: route → after.node? place = before.node? place

variable {request : Request} {definition node child : Definition} {dispatcher : Dispatcher}
  {children : List (String × Definition)} {position : Nat} {key : String} {place : Place}

/-! ## Routes -/

theorem routeAt_eq (found : children[position]? = some (key, child)) :
    routeAt request children position = child.route request := by
  induction children generalizing position with
  | nil => cases found
  | cons first rest ih =>
      cases position with
      | zero => cases found; rw [routeAt]
      | succ position => rw [routeAt]; exact ih found

namespace Definition

theorem route_of_unchosen (unchosen : definition.choice? request = none) :
    definition.route request = [] := by
  obtain ⟨_, _, strategy, _, _⟩ := definition
  rw [route]
  cases strategy with
  | dispatch => rw [Strategy.route, show Dispatcher.choose? _ _ _ = none from unchosen]
  | _ => rw [Strategy.route]

theorem route_of_chosen (chosen : definition.choice? request = some position)
    (found : definition.child? position = some child) :
    definition.route request = position :: child.route request := by
  obtain ⟨_, _, strategy, _, _⟩ := definition
  obtain ⟨key, found⟩ := child?_eq_some_iff.mp found
  rw [route]
  cases strategy with
  | dispatch =>
      rw [Strategy.route, show Dispatcher.choose? _ _ _ = some position from chosen]
      exact congrArg _ (routeAt_eq found)
  | _ => cases chosen

theorem choice?_of_route_eq_nil (ends : definition.route request = []) :
    definition.choice? request = none := by
  cases choice : definition.choice? request with
  | none => rfl
  | some position =>
      obtain ⟨_, _, _, _, strategy, _, found⟩ := dispatch_of_choice? choice
      rw [route_of_chosen choice (child?_of_dispatch strategy found)] at ends
      cases ends

/-- A place below a child is on a route if the child is chosen, and the rest is on its route. -/
theorem cons_prefix_route_iff :
    position :: place <+: definition.route request ↔
      definition.choice? request = some position ∧
        ∃ child, definition.child? position = some child ∧ place <+: child.route request := by
  cases choice : definition.choice? request with
  | none =>
      rw [route_of_unchosen choice]
      exact iff_of_false (by simp) nofun
  | some chosen =>
      obtain ⟨_, _, key, child, strategy, _, found⟩ := dispatch_of_choice? choice
      have here := child?_of_dispatch strategy found
      rw [route_of_chosen choice here, List.cons_prefix_cons, Option.some.injEq,
        eq_comm (a := position)]
      refine and_congr_right ?_
      rintro rfl
      simp only [here, Option.some.injEq, exists_eq_left']

end Definition

theorem chain_route (request : Request) (definition : Definition) :
    Chain request definition (definition.route request) := by
  induction definition using Definition.inductionOnChoice request with
  | unchosen definition choice =>
      rw [Definition.route_of_unchosen choice]
      refine .ends fun dispatcher children strategy => ?_
      exact Dispatcher.choose?_eq_none_iff.mp
        ((Definition.choice?_of_dispatch strategy).symm.trans choice)
  | chosen definition dispatcher children position key child strategy chosen found ih =>
      rw [Definition.route_of_chosen ((Definition.choice?_of_dispatch strategy).trans chosen)
        (Definition.child?_of_dispatch strategy found)]
      exact .dispatches strategy (Dispatcher.choose?_eq_some_iff.mp chosen) found ih

theorem Chain.eq_route {route : Place} (chain : Chain request definition route) :
    route = definition.route request := by
  induction chain with
  | @ends definition unchosen =>
      cases choice : definition.choice? request with
      | none => exact (Definition.route_of_unchosen choice).symm
      | some position =>
          obtain ⟨dispatcher, children, _, _, strategy, chosen, _⟩ :=
            Definition.dispatch_of_choice? choice
          exact absurd (Dispatcher.choose?_eq_some_iff.mp chosen)
            (unchosen dispatcher children strategy position)
  | dispatches strategy chosen found _ ih =>
      have choice := (Definition.choice?_of_dispatch strategy).trans
        (Dispatcher.choose?_eq_some_iff.mpr chosen)
      rw [Definition.route_of_chosen choice (Definition.child?_of_dispatch strategy found), ih]

/-! ## What a call changes -/

namespace Definition

theorem child?_reply_after_of_ne (other : definition.choice? request ≠ some position) :
    (definition.reply request).after.child? position = definition.child? position := by
  cases choice : definition.choice? request with
  | none => rw [reply_after_of_unchosen choice]; rfl
  | some chosen =>
      obtain ⟨dispatcher, children, key, child, strategy, chosen, found⟩ :=
        dispatch_of_choice? choice
      have differ := fun same => other (choice.trans (congrArg some same))
      rw [reply_of_chosen strategy chosen found, child?, child?, strategy]
      exact congrArg _ (List.getElem?_set_ne differ)

theorem child?_reply_after_of_chosen (choice : definition.choice? request = some position)
    (found : definition.child? position = some child) :
    (definition.reply request).after.child? position = some (child.reply request).after := by
  obtain ⟨dispatcher, children, key, same, strategy, chosen, here⟩ := dispatch_of_choice? choice
  rw [child?, strategy, Strategy.children_dispatch, here] at found
  cases found
  rw [reply_of_chosen strategy chosen here, child?_eq_some_iff]
  exact ⟨key, List.getElem?_set_self (List.getElem?_eq_some_iff.mp here).1⟩

/-- Off the route of a request nothing changes. -/
theorem node?_reply_after_of_not_prefix (off : ¬ place <+: definition.route request) :
    (definition.reply request).after.node? place = definition.node? place := by
  induction place generalizing definition with
  | nil => exact absurd List.nil_prefix off
  | cons position place ih =>
      rw [node?_cons, node?_cons]
      -- Only the chosen child is another one afterwards, and in it the rest is off its own route.
      by_cases choice : definition.choice? request = some position
      · obtain ⟨dispatcher, children, key, child, strategy, _, found⟩ := dispatch_of_choice? choice
        have here := child?_of_dispatch strategy found
        rw [child?_reply_after_of_chosen choice here, here]
        exact ih fun on => off (cons_prefix_route_iff.mpr ⟨choice, child, here, on⟩)
      · rw [child?_reply_after_of_ne choice]

/-- A definition on the route of a request replies to it as if it were the root. -/
theorem node?_reply_after_of_prefix (on : place <+: definition.route request)
    (found : definition.node? place = some node) :
    (definition.reply request).after.node? place = some (node.reply request).after ∧
      definition.route request = place ++ node.route request := by
  induction place generalizing definition with
  | nil => cases found; exact ⟨rfl, rfl⟩
  | cons position place ih =>
      obtain ⟨choice, child, here, on⟩ := cons_prefix_route_iff.mp on
      rw [node?_cons, here] at found
      obtain ⟨after, route⟩ := ih on found
      rw [node?_cons, child?_reply_after_of_chosen choice here, route_of_chosen choice here, route]
      exact ⟨after, rfl⟩

theorem exists_node_of_prefix_route (on : place <+: definition.route request) :
    ∃ node, definition.node? place = some node := by
  induction place generalizing definition with
  | nil => exact ⟨definition, rfl⟩
  | cons position place ih =>
      obtain ⟨_, child, found, on⟩ := cons_prefix_route_iff.mp on
      obtain ⟨node, here⟩ := ih on
      exact ⟨node, node?_cons_eq_some_iff.mpr ⟨child, found, here⟩⟩

/-- After a request, a place on its route holds the definition that replied there, and any other
place what it held before. -/
theorem node?_reply_after_eq_some
    (found : (definition.reply request).after.node? place = some node) :
    (place <+: definition.route request ∧
        ∃ old, definition.node? place = some old ∧ node = (old.reply request).after) ∨
      (¬ place <+: definition.route request ∧ definition.node? place = some node) := by
  by_cases on : place <+: definition.route request
  · obtain ⟨old, here⟩ := exists_node_of_prefix_route on
    obtain ⟨after, _⟩ := node?_reply_after_of_prefix on here
    exact .inl ⟨on, old, here, Option.some.inj (found.symm.trans after)⟩
  · have kept := node?_reply_after_of_not_prefix on
    exact .inr ⟨on, kept.symm.trans found⟩

end Definition

theorem Dispatcher.afterCall_of_chosen
    (chosen : dispatcher.choose? request children = some position) :
    dispatcher.afterCall children.length = dispatcher.advance := by
  cases dispatcher with
  | sequence next =>
      obtain ⟨rfl, inside⟩ := choose?_eq_some_iff.mp chosen
      exact congrArg sequence (if_pos inside)
  | _ => rfl

theorem Dispatcher.afterCall_of_unchosen (unchosen : dispatcher.choose? request children = none) :
    dispatcher.afterCall children.length = dispatcher := by
  cases dispatcher with
  | sequence next =>
      have exhausted := fun inside => choose?_eq_none_iff.mp unchosen next ⟨rfl, inside⟩
      exact congrArg sequence (if_neg exhausted)
  | _ => rfl

theorem Definition.calledOnce_reply (request : Request) (definition : Definition) :
    definition.CalledOnce (definition.reply request).after := by
  cases choice : definition.choice? request with
  | none =>
      rw [reply_after_of_unchosen choice]
      refine ⟨rfl, rfl, rfl, rfl, ?_⟩
      split
      case h_1 dispatcher children strategy =>
        have unchosen := (choice?_of_dispatch strategy).symm.trans choice
        exact ⟨children, by rw [Dispatcher.afterCall_of_unchosen unchosen, ← strategy], rfl⟩
      case h_2 => rfl
  | some position =>
      obtain ⟨dispatcher, children, key, child, strategy, chosen, found⟩ :=
        dispatch_of_choice? choice
      rw [reply_of_chosen strategy chosen found]
      refine ⟨rfl, rfl, rfl, rfl, ?_⟩
      rw [strategy]
      refine ⟨children.set position (key, (child.reply request).after), ?_, map_set_of_eq found rfl⟩
      rw [Dispatcher.afterCall_of_chosen chosen]

theorem callsAlong_reply (request : Request) (definition : Definition) :
    CallsAlong (definition.route request) definition (definition.reply request).after where
  onRoute _ node on found :=
    ⟨_, (Definition.node?_reply_after_of_prefix on found).1, node.calledOnce_reply request⟩
  elsewhere _ off := Definition.node?_reply_after_of_not_prefix off

/-- A request changes a tree along one chain only, whether or not the root checks its constraints.
Children that were rejected or do not fit are off the chain. -/
theorem exists_chain_callsAlong (request : Request) (definition : Definition) :
    ∃ route, Chain request definition route ∧
      (∀ other, Chain request definition other → other = route) ∧
      CallsAlong route definition (definition.execute request).after ∧
      CallsAlong route definition (definition.executeUnverified request).after := by
  rw [Definition.execute_after, Definition.executeUnverified_after]
  have called := callsAlong_reply request definition
  exact ⟨definition.route request, chain_route request definition, fun _ chain => chain.eq_route,
    called, called⟩

end ApiMock
