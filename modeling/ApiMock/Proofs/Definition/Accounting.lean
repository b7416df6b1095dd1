import ApiMock.Proofs.Definition.Answer
import ApiMock.Proofs.Definition.Run
import Mathlib

/-!
# Accounts of calls

Every call of a definition that dispatches is accounted for: it was passed on to a child, where it
is counted too, or no child was found for it. A sequence passes each of its first calls on to the
next step. Accounts are kept at every place of a tree and by every operation.
-/

set_option autoImplicit false

namespace ApiMock

namespace Definition

/-- Whether a definition dispatches and has no child for a request. -/
def misses (request : Request) (definition : Definition) : Bool :=
  match definition.strategy with
  | .dispatch dispatcher children => (dispatcher.choose? request children).isNone
  | _ => false

/-- Whether the chain of a request comes to the definition at a place, which has no child for it. -/
def leavesUnhandled (request : Request) (place : Place) (definition : Definition) : Bool :=
  decide (place <+: definition.route request) && (definition.node? place).any (misses request)

/-- The calls of a definition, some of which were left unhandled, are those of its children. -/
structure Accounted (unhandled : Nat) (definition : Definition) : Prop where
  sequence : ∀ position children, definition.strategy = .dispatch (.sequence position) children →
    position = min definition.calls children.length ∧
      ∀ (index : Nat) key step, children[index]? = some (key, step) →
        step.calls = if index < position then 1 else 0
  others : ∀ dispatcher children, definition.strategy = .dispatch dispatcher children →
    (∀ position, dispatcher ≠ .sequence position) →
    definition.calls = (children.map fun child => child.2.calls).sum + unhandled

end Definition

/-- The number of requests of a context that were left unhandled at a place. -/
def Running.unhandledAt (running : Running) (place : Place) : Nat :=
  running.served.countP fun (tree, request) => tree.leavesUnhandled request place

/-- The calls at all places of a tree are accounted for. -/
def Running.Accounted (running : Running) : Prop :=
  ∀ place node, running.definition.node? place = some node →
    node.Accounted (running.unhandledAt place)

variable {request : Request} {definition node child : Definition} {dispatcher : Dispatcher}
  {children : List (String × Definition)} {position : Nat} {key : String} {place : Place}

theorem sum_map_set {α : Type} {f : α → Nat} {items : List α} {index : Nat} {old new : α}
    (found : items[index]? = some old) :
    ((items.set index new).map f).sum + f old = (items.map f).sum + f new := by
  induction items generalizing index with
  | nil => cases found
  | cons first rest ih =>
      cases index with
      | zero =>
          cases found
          simp only [List.set_cons_zero, List.map_cons, List.sum_cons]
          omega
      | succ index =>
          simp only [List.set_cons_succ, List.map_cons, List.sum_cons]
          have rest_eq := ih found
          omega

namespace Definition

theorem misses_of_dispatch (strategy : definition.strategy = .dispatch dispatcher children) :
    definition.misses request = (dispatcher.choose? request children).isNone := by
  rw [misses, strategy]

/-- All calls of a fresh definition are accounted for: there are none. -/
theorem Fresh.accounted (fresh : definition.Fresh) : definition.Accounted 0 := by
  obtain ⟨⟨calls, position⟩, below⟩ := forall_node_iff.mp fresh
  have childCalls : ∀ child ∈ definition.strategy.children, child.2.calls = 0 :=
    fun child member => (below child member [] child.2 rfl).1
  constructor
  · intro next children strategy
    rw [strategy] at childCalls
    rw [calls, position next children strategy, Nat.zero_min]
    exact ⟨rfl, fun index key step found => childCalls (key, step) (List.mem_of_getElem? found)⟩
  · intro dispatcher children strategy _
    rw [strategy] at childCalls
    rw [calls, Nat.add_zero, eq_comm, List.sum_eq_zero_iff_forall_eq_nat]
    intro count member
    obtain ⟨child, inside, rfl⟩ := List.mem_map.mp member
    exact childCalls child inside

/-! ## One definition -/

theorem Accounted.reply_of_unchosen {unhandled : Nat} (accounted : definition.Accounted unhandled)
    (choice : definition.choice? request = none) :
    (definition.reply request).after.Accounted
      (unhandled + if definition.misses request then 1 else 0) := by
  rw [reply_after_of_unchosen choice]
  constructor
  · intro position children (strategy : definition.strategy = _)
    obtain ⟨counted, steps⟩ := accounted.sequence position children strategy
    have exhausted : ¬ position < children.length := fun left =>
      Dispatcher.choose?_eq_none_iff.mp ((choice?_of_dispatch strategy).symm.trans choice) position
        ⟨rfl, left⟩
    -- The position is that behind the last step, however many calls there are.
    refine ⟨?_, steps⟩
    show position = min (definition.calls + 1) children.length
    omega
  · intro dispatcher children (strategy : definition.strategy = _) other
    have missed : definition.misses request = true := by
      rw [misses_of_dispatch strategy, ← choice?_of_dispatch strategy, choice]
      rfl
    have counted := accounted.others dispatcher children strategy other
    show definition.calls + 1 = _
    rw [if_pos missed, counted, Nat.add_assoc]

/-- The next step of a sequence is called for the first time. -/
theorem calls_of_next_step
    (steps : ∀ (index : Nat) key step, children[index]? = some (key, step) →
      step.calls = if index < position then 1 else 0)
    (found : children[position]? = some (key, child)) (index : Nat) (other : String)
    (step : Definition)
    (here : (children.set position (key, (child.reply request).after))[index]? =
      some (other, step)) :
    step.calls = if index < position + 1 then 1 else 0 := by
  by_cases same : position = index
  · subst same
    rw [List.getElem?_set_self (List.getElem?_eq_some_iff.mp found).1] at here
    cases here
    rw [reply_after_calls, steps position key child found, if_neg (Nat.lt_irrefl position),
      if_pos (Nat.lt_succ_self position)]
  · rw [List.getElem?_set_ne same] at here
    rw [steps index other step here]
    exact if_congr (by omega) rfl rfl

theorem Accounted.reply_of_chosen {unhandled : Nat} (accounted : definition.Accounted unhandled)
    (strategy : definition.strategy = .dispatch dispatcher children)
    (chosen : dispatcher.choose? request children = some position)
    (found : children[position]? = some (key, child)) :
    (definition.reply request).after.Accounted
      (unhandled + if definition.misses request then 1 else 0) := by
  have handled : ¬ definition.misses request = true := by
    rw [misses_of_dispatch strategy, chosen]
    exact Bool.false_ne_true
  rw [if_neg handled, Nat.add_zero, Definition.reply_of_chosen strategy chosen found]
  constructor
  · intro next _ same
    obtain ⟨advanced, rfl⟩ := Strategy.dispatch.inj same
    cases dispatcher with
    | sequence start =>
        cases advanced
        obtain ⟨rfl, inside⟩ := Dispatcher.choose?_eq_some_iff.mp chosen
        obtain ⟨counted, steps⟩ := accounted.sequence position children strategy
        -- A step is left, so every call so far was passed on to a step.
        refine ⟨?_, calls_of_next_step steps found⟩
        rw [List.length_set]
        show position + 1 = min (definition.calls + 1) children.length
        omega
    | _ => cases advanced
  · intro _ _ same other
    obtain ⟨rfl, rfl⟩ := Strategy.dispatch.inj same
    have counted := accounted.others dispatcher children strategy fun start isSequence =>
      other (start + 1) (by rw [isSequence]; rfl)
    have passedOn : ((children.set position (key, (child.reply request).after)).map
        fun child => child.2.calls).sum + child.calls =
          (children.map fun child => child.2.calls).sum + (child.reply request).after.calls :=
      sum_map_set found
    rw [reply_after_calls] at passedOn
    show definition.calls + 1 = _
    omega

theorem Accounted.reply {unhandled : Nat} (accounted : definition.Accounted unhandled) :
    (definition.reply request).after.Accounted
      (unhandled + if definition.misses request then 1 else 0) := by
  cases choice : definition.choice? request with
  | none => exact accounted.reply_of_unchosen choice
  | some position =>
      obtain ⟨_, _, _, _, strategy, chosen, found⟩ := dispatch_of_choice? choice
      exact accounted.reply_of_chosen strategy chosen found

/-! ## All definitions of a tree -/

theorem leavesUnhandled_of_not_prefix (off : ¬ place <+: definition.route request) :
    definition.leavesUnhandled request place = false := by
  rw [leavesUnhandled, decide_eq_false off, Bool.false_and]

theorem leavesUnhandled_of_isOnRoute (on : place <+: definition.route request)
    (found : definition.node? place = some node) :
    definition.leavesUnhandled request place = node.misses request := by
  rw [leavesUnhandled, decide_eq_true on, Bool.true_and, found, Option.any_some]

/-! ## Requests that are left unhandled -/

theorem misses_iff : definition.misses request = true ↔
    ∃ dispatcher children, definition.strategy = .dispatch dispatcher children ∧
      ∀ position, ¬ dispatcher.Chooses request children position := by
  constructor
  · intro missed
    cases strategy : definition.strategy with
    | dispatch dispatcher children =>
        rw [misses_of_dispatch strategy, Option.isNone_iff_eq_none] at missed
        exact ⟨dispatcher, children, rfl, Dispatcher.choose?_eq_none_iff.mp missed⟩
    | _ =>
        rw [misses, strategy] at missed
        cases missed
  · rintro ⟨dispatcher, children, strategy, none_fits⟩
    rw [misses_of_dispatch strategy, Dispatcher.choose?_eq_none_iff.mpr none_fits]
    rfl

theorem choice?_of_misses (missed : definition.misses request = true) :
    definition.choice? request = none := by
  obtain ⟨dispatcher, children, strategy, none_fits⟩ := misses_iff.mp missed
  exact (choice?_of_dispatch strategy).trans (Dispatcher.choose?_eq_none_iff.mpr none_fits)

theorem leavesUnhandled_iff_chain : definition.leavesUnhandled request place = true ↔
    Chain request definition place ∧
      ∃ node, definition.node? place = some node ∧ node.misses request = true := by
  constructor
  · intro unhandled
    rw [leavesUnhandled, Bool.and_eq_true, decide_eq_true_eq, Option.any_eq_true] at unhandled
    obtain ⟨on, node, found, missed⟩ := unhandled
    obtain ⟨_, route⟩ := node?_reply_after_of_prefix on found
    rw [route_of_unchosen (choice?_of_misses missed), List.append_nil] at route
    exact ⟨route ▸ chain_route request definition, node, found, missed⟩
  · rintro ⟨chain, node, found, missed⟩
    rw [leavesUnhandled_of_isOnRoute (chain.eq_route ▸ List.prefix_rfl) found]
    exact missed

theorem unhandled_notMem_verify {dump : String} :
    Failure.unhandled dump ∉ definition.verify request := by
  simp [verify]

/-- Who has no child for a request answers that there is no such resource or method. -/
theorem Answers.of_misses {isVariant : Prop} {response : Response} {own : List Failure}
    (answers : Answers request isVariant definition response own)
    (missed : definition.misses request = true) :
    ∃ dispatcher children front, definition.strategy = .dispatch dispatcher children ∧
      response = { status := if dispatcher = .method then .methodNotAllowed else .notFound } ∧
      own = front ++ [.unhandled request.dump] := by
  obtain ⟨dispatcher, children, strategy, _⟩ := misses_iff.mp missed
  cases answers with
  | unmatched same => exact ⟨_, _, [], same, rfl, rfl⟩
  | rejected same => exact ⟨_, _, _, same, rfl, rfl⟩
  | _ => simp_all

theorem Answers.misses_of_unhandled {isVariant : Prop} {response : Response} {own : List Failure}
    (answers : Answers request isVariant definition response own) {dump : String}
    (unhandled : .unhandled dump ∈ own) :
    dump = request.dump ∧ definition.misses request = true := by
  cases answers with
  | unmatched strategy _ none_fits =>
      cases List.mem_singleton.mp unhandled
      exact ⟨rfl, misses_iff.mpr ⟨_, _, strategy, none_fits⟩⟩
  | rejected strategy none_fits =>
      refine ⟨?_, misses_iff.mpr ⟨_, _, strategy, none_fits⟩⟩
      simpa [unhandled_notMem_verify] using unhandled
  | _ => simp at unhandled

/-- A request is left unhandled at the end of its chain. Whether or not the root checks its
constraints, the response says so, and so does the last failure. -/
theorem leavesUnhandled_iff : definition.leavesUnhandled request place = true ↔
    Chain request definition place ∧
      ∃ node dispatcher children, definition.node? place = some node ∧
        node.strategy = .dispatch dispatcher children ∧
        ∀ execution ∈ [definition.execute request, definition.executeUnverified request],
          execution.response =
              { status := if dispatcher = .method then .methodNotAllowed else .notFound } ∧
            ∃ front, execution.failures = front ++ [.unhandled request.dump] := by
  rw [leavesUnhandled_iff_chain]
  refine and_congr_right fun chain => ?_
  constructor
  · rintro ⟨node, found, missed⟩
    obtain ⟨last, own, reached, answers, failures⟩ := exists_answers request definition
    rw [← chain.eq_route, found] at reached
    cases reached
    obtain ⟨dispatcher, children, front, strategy, response, rfl⟩ := answers.of_misses missed
    rw [← List.append_assoc] at failures
    refine ⟨node, dispatcher, children, found, strategy, ?_⟩
    rw [List.forall_mem_cons, List.forall_mem_singleton]
    simp only [execute, executeUnverified, Execution.precededBy, failures, ← List.append_assoc]
    exact ⟨⟨response, _, rfl⟩, ⟨response, _, rfl⟩⟩
  · rintro ⟨node, dispatcher, children, found, strategy, _⟩
    have on : place <+: definition.route request := chain.eq_route ▸ List.prefix_rfl
    obtain ⟨_, route⟩ := node?_reply_after_of_prefix on found
    have ends : node.route request = [] := by
      rwa [← chain.eq_route, List.self_eq_append_right] at route
    refine ⟨node, found, misses_iff.mpr ⟨dispatcher, children, strategy, ?_⟩⟩
    exact Dispatcher.choose?_eq_none_iff.mp
      ((choice?_of_dispatch strategy).symm.trans (choice?_of_route_eq_nil ends))

/-- A request is reported as unhandled if it is left so at some place, and only then. -/
theorem unhandled_mem_failures_iff {dump : String} :
    .unhandled dump ∈ (definition.execute request).failures ↔
      dump = request.dump ∧ ∃ place, definition.leavesUnhandled request place = true := by
  constructor
  · intro unhandled
    obtain ⟨last, own, reached, answers, failures⟩ := exists_answers request definition
    have onOwn : .unhandled dump ∈ own := by
      simpa [execute, Execution.precededBy, failures, unhandled_notMem_verify] using unhandled
    obtain ⟨same, missed⟩ := answers.misses_of_unhandled onOwn
    exact ⟨same, _, leavesUnhandled_iff_chain.mpr
      ⟨chain_route request definition, last, reached, missed⟩⟩
  · rintro ⟨rfl, place, unhandled⟩
    obtain ⟨_, _, _, _, _, _, answers⟩ := leavesUnhandled_iff.mp unhandled
    obtain ⟨_, front, failures⟩ := answers _ List.mem_cons_self
    rw [failures]
    exact List.mem_append_right front (List.mem_singleton_self _)

end Definition

namespace Running

/-- A request that a tree serves is accounted for at every place. -/
theorem Accounted.serve {running : Running} (accounted : running.Accounted) (request : Request) :
    (running.serve request).Accounted := by
  intro place node found
  have count : (running.serve request).unhandledAt place = running.unhandledAt place +
      if running.definition.leavesUnhandled request place then 1 else 0 :=
    countP_served_serve _ running request
  rw [count]
  -- On the route the definition itself replies; elsewhere it is the same, and so is the count.
  rcases Definition.node?_reply_after_eq_some found with ⟨on, old, here, rfl⟩ | ⟨off, here⟩
  · rw [Definition.leavesUnhandled_of_isOnRoute on here]
    exact (accounted place old here).reply
  · rw [Definition.leavesUnhandled_of_not_prefix off, if_neg Bool.false_ne_true, Nat.add_zero]
    exact accounted place node here

end Running

theorem Definition.Fresh.accounted_running (fresh : definition.Fresh) :
    Running.Accounted { definition } := by
  intro place node found
  refine Definition.Fresh.accounted fun inner below here => fresh (place ++ inner) below ?_
  rw [node?_append, found]
  exact here

theorem Running.Accounted.perform {running : Running} (accounted : running.Accounted)
    (operation : Operation) : (running.perform operation).Accounted :=
  Definition.perform_preserves (fun _ fresh => fresh.accounted_running)
    (fun _ request accounted => accounted.serve request) operation accounted

/-- Whatever a fresh tree serves, at every place a sequence stands behind the steps that were
called, once each, and any other dispatcher has the calls of its children and one for each request
of the context that it left unhandled. -/
theorem Definition.accounted_run (fresh : definition.Fresh) (operations : List Operation)
    {place : Place} {node : Definition}
    (found : (definition.run operations).definition.node? place = some node) :
    node.Accounted ((definition.run operations).unhandledAt place) :=
  run_preserves Running.Accounted fresh.accounted_running
    (fun _ operation accounted => accounted.perform operation) operations place node found

theorem Definition.accounted_run_of_two_methods :
    let steps : Definition :=
      { path := "$.GET", constraints := [], strategy := .inSequence [.nop], expectedCalls := none }
    let tree : Definition :=
      { path := "$", constraints := [], strategy := .byMethod [("GET", steps)]
        expectedCalls := none }
    let post : Request := { method := "POST" }
    let reached := tree.run
      [.execute {}, .execute post, .reset, .execute {}, .executeUnverified post, .execute {}]
    tree.Fresh ∧ reached.definition.calls = 3 ∧ reached.definition.Accounted 1 ∧
      ∃ node, reached.definition.node? [0] = some node ∧ node.calls = 2 ∧ node.Accounted 1 := by
  intro steps tree post reached
  have fresh : tree.Fresh := fresh_iff_reset_eq_self.mpr rfl
  have unmatched : reached.unhandledAt [] = 1 := by decide +kernel
  have exhausted : reached.unhandledAt [0] = 1 := by decide +kernel
  have counted : (reached.definition.node? [0]).map Definition.calls = some 2 := by decide +kernel
  obtain ⟨node, found, calls⟩ := Option.map_eq_some_iff.mp counted
  refine ⟨fresh, by decide +kernel, ?_, node, found, calls, ?_⟩
  · exact unmatched ▸ accounted_run fresh _ rfl
  · exact exhausted ▸ accounted_run fresh _ found

end ApiMock
