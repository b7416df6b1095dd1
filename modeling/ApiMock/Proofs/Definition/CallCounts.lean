import ApiMock.Proofs.Definition.PostOrder
import ApiMock.Proofs.Definition.Run

/-!
# Counted and expected calls

The counter of a definition is the number of requests of the context whose chain goes through it. So
the failures at the end of a context are exact: one for every definition that was not called as
often as expected, with both numbers, and none for the others.
-/

set_option autoImplicit false

namespace ApiMock

variable {request : Request} {definition : Definition} {place : Place} {running : Running}

namespace Definition

/-- The chain of a request goes through the definition at a place. -/
def PassesThrough (request : Request) (place : Place) (definition : Definition) : Prop :=
  ∃ route, Chain request definition route ∧ place <+: route

/-- The failure of a definition that was called a number of times, if another one is expected. -/
def miscount? (count : Nat) (definition : Definition) : Option Failure :=
  (definition.expectedCalls.filter (· ≠ count)).map fun expected =>
    .callCount definition.path expected count

theorem passesThrough_iff :
    definition.PassesThrough request place ↔ place <+: definition.route request := by
  constructor
  · rintro ⟨route, chain, through⟩
    exact chain.eq_route ▸ through
  · exact fun through => ⟨_, chain_route request definition, through⟩

instance : Decidable (definition.PassesThrough request place) :=
  decidable_of_iff _ passesThrough_iff.symm

theorem callCountFailures_eq (definition : Definition) :
    callCountFailures definition.path definition.expectedCalls definition.calls =
      (definition.miscount? definition.calls).toList := by
  unfold callCountFailures miscount?
  cases definition.expectedCalls.filter (· ≠ definition.calls) <;> rfl

theorem contextFailures_eq_filterMap (definition : Definition) :
    definition.contextFailures =
      definition.nodes.filterMap fun entry => entry.2.miscount? entry.2.calls := by
  rw [contextFailures_eq_flatMap, List.filterMap_eq_flatMap_toList]
  exact List.flatMap_congr fun entry _ => callCountFailures_eq entry.2

end Definition

/-- The number of requests of a context whose chain goes through a place. -/
def Running.callsAt (running : Running) (place : Place) : Nat :=
  running.served.countP fun (tree, request) => tree.PassesThrough request place

/-- The counters of a tree are those of the requests of the context. -/
def Running.Counted (running : Running) : Prop :=
  ∀ place node, running.definition.node? place = some node → node.calls = running.callsAt place

namespace Running

/-- A request is counted where its chain goes through, and only there. -/
theorem Counted.serve (counted : running.Counted) (request : Request) :
    (running.serve request).Counted := by
  intro place node found
  have count : (running.serve request).callsAt place = running.callsAt place +
      if running.definition.PassesThrough request place then 1 else 0 := by
    rw [callsAt, countP_served_serve]
    simp only [decide_eq_true_eq]
    rfl
  rw [count]
  rcases Definition.node?_reply_after_eq_some found with ⟨on, old, here, rfl⟩ | ⟨off, here⟩
  · rw [if_pos (Definition.passesThrough_iff.mpr on), Definition.reply_after_calls,
      counted place old here]
  · rw [if_neg fun through => off (Definition.passesThrough_iff.mp through), Nat.add_zero]
    exact counted place node here

theorem counted_of_fresh (fresh : definition.Fresh) : Running.Counted { definition } :=
  fun place node found => (fresh place node found).1

/-- Where all calls are counted, the failures at the end of a context are those of the definitions
with another number of calls than expected, in post-order. -/
theorem Counted.contextFailures_eq (counted : running.Counted) :
    running.definition.contextFailures =
      running.definition.nodes.filterMap fun (place, node) =>
        node.miscount? (running.callsAt place) := by
  rw [Definition.contextFailures_eq_filterMap]
  refine List.filterMap_congr fun (place, node) member => ?_
  rw [counted place node (Definition.mem_nodes_iff.mp member)]

end Running

namespace Definition

theorem counted_run (fresh : definition.Fresh) (operations : List Operation) :
    (definition.run operations).Counted := by
  refine run_preserves Running.Counted (Running.counted_of_fresh fresh) ?_ operations
  intro running operation counted
  exact perform_preserves (fun _ => Running.counted_of_fresh)
    (fun _ request counted => counted.serve request) operation counted

theorem run_append (front rest : List Operation) (definition : Definition) :
    definition.run (front ++ rest) = rest.foldl Running.perform (definition.run front) :=
  List.foldl_append

theorem served_foldl_execute (requests : List Request) (running : Running) :
    ((requests.map .execute).foldl Running.perform running).served.map Prod.snd =
      running.served.map Prod.snd ++ requests := by
  induction requests generalizing running with
  | nil => exact (List.append_nil _).symm
  | cons request rest ih =>
      rw [List.map_cons, List.foldl_cons, ih, Running.perform, List.map_append, List.append_assoc]
      rfl

/-- The requests of a context are those since the last reset. -/
theorem served_run_of_reset (history : List Operation) (requests : List Request)
    (definition : Definition) :
    (definition.run (history ++ .reset :: requests.map .execute)).served.map Prod.snd =
      requests := by
  rw [run_append, List.foldl_cons, served_foldl_execute]
  rfl

/-- Whatever is served after a reset, the counter of every definition is the number of requests of
the context whose chain goes through it. At the end of the context exactly the definitions fail that
another number is expected of, each once and children before their parents, and whatever happens
next happens as if the context had not been ended. The requests of a context are those since the
last reset. -/
theorem contextFailures_run (definition : Definition) (operations : List Operation) :
    let running := definition.reset.run operations
    (∀ place node, running.definition.node? place = some node →
      node.calls = running.callsAt place) ∧
    (∃ nodes : List (Place × Definition),
      nodes.Pairwise (fun first second => first.1.Before second.1) ∧
      (nodes.map Prod.fst).Nodup ∧
      (∀ place node, (place, node) ∈ nodes ↔ running.definition.node? place = some node) ∧
      running.definition.contextFailures = nodes.filterMap fun (place, node) =>
        node.miscount? (running.callsAt place)) ∧
    (∀ rest, definition.reset.run (operations ++ .endContext :: rest) =
      definition.reset.run (operations ++ rest)) ∧
    ∀ requests,
      (definition.run (operations ++ .reset :: requests.map .execute)).served.map Prod.snd =
        requests := by
  intro running
  have counted : running.Counted := counted_run (fresh_reset definition) operations
  refine ⟨counted, ⟨running.definition.nodes, pairwise_nodes _, nodup_places _,
    fun _ _ => mem_nodes_iff, counted.contextFailures_eq⟩, fun rest => ?_, fun requests => ?_⟩
  · rw [run_append, run_append, List.foldl_cons]
    rfl
  · exact served_run_of_reset operations requests definition

/-- A child that is called too rarely fails before its parent, which is called too often. -/
example :
    let child : Definition :=
      { path := "$.GET", constraints := [], strategy := .nop, expectedCalls := some 2 }
    let tree : Definition :=
      { path := "$", constraints := [], strategy := .byMethod [("GET", child)]
        expectedCalls := some 1 }
    (tree.run [.execute {}, .execute { method := "POST" }]).definition.contextFailures =
      [.callCount "$.GET" 2 1, .callCount "$" 1 2] := rfl

end Definition

end ApiMock
