import ApiMock.Proofs.Definition.CallCounts

/-!
# Trees with distinct paths

Where no two definitions of a tree have the same path, a failure at the end of a context tells which
definition it is about. Whatever a tree serves, its paths stay what they are.
-/

set_option autoImplicit false

namespace ApiMock

/-- The path in the failure of a definition with unexpected calls. -/
def Failure.countedPath? : Failure → Option String
  | callCount path _ _ => some path
  | _ => none

namespace Definition

variable {definition tree node : Definition} {place : Place} {failure : Failure}

/-- Definitions at different places of a tree have different paths. -/
def DistinctPaths (definition : Definition) : Prop :=
  ∀ place other node twin, definition.node? place = some node →
    definition.node? other = some twin → node.path = twin.path → place = other

theorem path_reset (definition : Definition) : definition.reset.path = definition.path := by
  rw [reset_eq]

/-- Trees that a new context makes equal have the same paths. -/
theorem DistinctPaths.of_reset_eq (distinct : definition.DistinctPaths)
    (same : tree.reset = definition.reset) : tree.DistinctPaths := by
  have original {place : Place} {node : Definition} (found : tree.node? place = some node) :
      ∃ old, definition.node? place = some old ∧ old.path = node.path := by
    have fresh : definition.reset.node? place = some node.reset := by
      rw [← same, node?_reset, found]
      rfl
    rw [node?_reset, Option.map_eq_some_iff] at fresh
    obtain ⟨old, here, again⟩ := fresh
    exact ⟨old, here, by rw [← path_reset old, again, path_reset]⟩
  intro place other node twin first second equal
  obtain ⟨old, here, path⟩ := original first
  obtain ⟨oldTwin, there, otherPath⟩ := original second
  exact distinct place other old oldTwin here there (by rw [path, otherPath, equal])

theorem reset_run_definition (operations : List Operation) (definition : Definition) :
    (definition.run operations).definition.reset = definition.reset := by
  refine run_preserves (fun running => running.definition.reset = definition.reset) rfl ?_ operations
  exact fun running operation holds => (reset_perform running operation).trans holds

/-! ## Failures at the end of a context -/

theorem countedPath?_of_miscount? {count : Nat} (found : node.miscount? count = some failure) :
    failure.countedPath? = some node.path := by
  obtain ⟨expected, _, rfl⟩ := Option.map_eq_some_iff.mp found
  rfl

/-- A failure is that of one definition, and no other has the path in it. -/
theorem DistinctPaths.exists_of_mem_contextFailures (distinct : definition.DistinctPaths)
    (member : failure ∈ definition.contextFailures) :
    ∃ place node, definition.node? place = some node ∧ node.miscount? node.calls = some failure ∧
      ∀ other twin, definition.node? other = some twin →
        failure.countedPath? = some twin.path → other = place := by
  rw [contextFailures_eq_filterMap, List.mem_filterMap] at member
  obtain ⟨⟨place, node⟩, listed, miscounted⟩ := member
  have found := mem_nodes_iff.mp listed
  refine ⟨place, node, found, miscounted, fun other twin here path => ?_⟩
  rw [countedPath?_of_miscount? miscounted, Option.some.injEq] at path
  exact distinct other place twin node here found path.symm

theorem DistinctPaths.pairwise_nodes (distinct : definition.DistinctPaths) :
    definition.nodes.Pairwise fun first second => first.2.path ≠ second.2.path := by
  refine (List.pairwise_map.mp (nodup_places definition)).imp_of_mem ?_
  intro first second here there differ same
  exact differ (distinct _ _ _ _ (mem_nodes_iff.mp here) (mem_nodes_iff.mp there) same)

/-- No path is in two failures. -/
theorem DistinctPaths.nodup_contextFailures (distinct : definition.DistinctPaths) :
    (definition.contextFailures.map Failure.countedPath?).Nodup := by
  rw [contextFailures_eq_filterMap, List.Nodup, List.pairwise_map, List.pairwise_filterMap]
  refine distinct.pairwise_nodes.imp fun differ failure found other otherFound same => ?_
  rw [countedPath?_of_miscount? found, countedPath?_of_miscount? otherFound] at same
  exact differ (Option.some.inj same)

end Definition

end ApiMock
