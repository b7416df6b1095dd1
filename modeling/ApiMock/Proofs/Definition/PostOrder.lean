import ApiMock.Definition.Context
import ApiMock.Proofs.Definition.Place
import Mathlib.Data.List.Basic

/-!
# Post-order

The definitions of a tree from the children up: those below each child in turn, and their parent
behind them. Every place of the tree has its turn once. This is the order in which the calls are
compared with the expected ones at the end of a context.
-/

set_option autoImplicit false

namespace ApiMock

/-- Post-order: a place comes behind all places below it, and those below one child come before
those below a later one. -/
inductive Place.Before : Place → Place → Prop where
  | parent {position : Nat} {place : Place} : Before (position :: place) []
  | beside {first second : Nat} {place other : Place} :
      first < second → Before (first :: place) (second :: other)
  | within {position : Nat} {place other : Place} :
      Before place other → Before (position :: place) (position :: other)

theorem Place.Before.irrefl (place : Place) : ¬ place.Before place := by
  induction place with
  | nil => nofun
  | cons position rest ih =>
      intro before
      cases before with
      | beside less => exact Nat.lt_irrefl position less
      | within before => exact ih before

/-- A definition that stands at a place below a child, as one below its parent. -/
def belowChild (position : Nat) (entry : Place × Definition) : Place × Definition :=
  (position :: entry.1, entry.2)

mutual

/-- The definitions of a tree with their places, in post-order. -/
def Definition.nodes : Definition → List (Place × Definition)
  | ⟨path, constraints, strategy, expectedCalls, calls⟩ =>
    strategy.nodes ++ [([], ⟨path, constraints, strategy, expectedCalls, calls⟩)]

/-- The definitions below a strategy. -/
def Strategy.nodes : Strategy → List (Place × Definition)
  | .dispatch _ children => childrenNodes 0 children
  | .unset | .nop | .dropRequest | .constant .. | .template .. => []

/-- The definitions below children, whose positions count from an index on. -/
def childrenNodes : Nat → List (String × Definition) → List (Place × Definition)
  | _, [] => []
  | index, (_, child) :: rest =>
    child.nodes.map (belowChild index) ++ childrenNodes (index + 1) rest

end

variable {definition node : Definition} {place : Place}

theorem childrenNodes_eq_flatMap (index : Nat) (children : List (String × Definition)) :
    childrenNodes index children =
      (children.zipIdx index).flatMap fun child => child.1.2.nodes.map (belowChild child.2) := by
  induction children generalizing index with
  | nil => rw [childrenNodes]; rfl
  | cons child rest ih => rw [childrenNodes, ih]; rfl

theorem childrenFailures_eq_flatMap (children : List (String × Definition)) :
    childrenFailures children = children.flatMap fun child => child.2.contextFailures := by
  induction children with
  | nil => rw [childrenFailures]; rfl
  | cons child rest ih => rw [childrenFailures, ih]; rfl

namespace Definition

theorem nodes_eq (definition : Definition) :
    definition.nodes =
      definition.strategy.children.zipIdx.flatMap
        (fun child => child.1.2.nodes.map (belowChild child.2)) ++ [([], definition)] := by
  obtain ⟨_, _, strategy, _, _⟩ := definition
  rw [nodes]
  cases strategy with
  | dispatch => rw [Strategy.nodes, childrenNodes_eq_flatMap]; rfl
  | _ => rw [Strategy.nodes]; rfl

theorem contextFailures_eq (definition : Definition) :
    definition.contextFailures =
      definition.strategy.children.flatMap (fun child => child.2.contextFailures) ++
        callCountFailures definition.path definition.expectedCalls definition.calls := by
  obtain ⟨_, _, strategy, _, _⟩ := definition
  rw [contextFailures]
  cases strategy with
  | dispatch => rw [Strategy.contextFailures, childrenFailures_eq_flatMap]; rfl
  | _ => rw [Strategy.contextFailures]; rfl

/-! ## All places, each in its turn -/

theorem mem_nodes_nil_iff : ([], node) ∈ definition.nodes ↔ node = definition := by
  rw [nodes_eq, List.mem_append, List.mem_singleton, Prod.mk.injEq, eq_self, true_and]
  refine or_iff_right fun member => ?_
  obtain ⟨_, _, below⟩ := List.mem_flatMap.mp member
  obtain ⟨_, _, same⟩ := List.mem_map.mp below
  cases same

theorem mem_nodes_cons_iff {position : Nat} :
    (position :: place, node) ∈ definition.nodes ↔
      ∃ child, definition.child? position = some child ∧ (place, node) ∈ child.nodes := by
  rw [nodes_eq, List.mem_append, List.mem_flatMap]
  constructor
  · rintro (⟨⟨⟨key, child⟩, index⟩, here, below⟩ | root)
    · obtain ⟨⟨inner, found⟩, member, same⟩ := List.mem_map.mp below
      cases same
      exact ⟨child, child?_eq_some_iff.mpr ⟨key, List.mk_mem_zipIdx_iff_getElem?.mp here⟩, member⟩
    · cases List.mem_singleton.mp root
  · rintro ⟨child, found, member⟩
    obtain ⟨key, here⟩ := child?_eq_some_iff.mp found
    exact .inl ⟨((key, child), position), List.mk_mem_zipIdx_iff_getElem?.mpr here,
      List.mem_map.mpr ⟨(place, node), member, rfl⟩⟩

/-- The definitions of a tree are those at its places. -/
theorem mem_nodes_iff : (place, node) ∈ definition.nodes ↔ definition.node? place = some node := by
  induction place generalizing definition with
  | nil => rw [mem_nodes_nil_iff, node?_nil, Option.some.injEq, eq_comm]
  | cons position place ih =>
      rw [mem_nodes_cons_iff, node?_cons_eq_some_iff]
      exact exists_congr fun child => and_congr_right fun _ => ih

/-- The definitions of a tree are listed in post-order. -/
theorem pairwise_nodes (definition : Definition) :
    definition.nodes.Pairwise fun first second => first.1.Before second.1 := by
  induction definition with
  | node definition ih =>
      rw [nodes_eq, List.pairwise_append, List.pairwise_flatMap]
      refine ⟨⟨?_, ?_⟩, List.pairwise_singleton _ _, ?_⟩
      · intro child member
        have sorted := ih child.1 (List.fst_mem_of_mem_zipIdx member)
        exact List.pairwise_map.mpr (sorted.imp .within)
      · have positions : (definition.strategy.children.zipIdx.map Prod.snd).Pairwise (· < ·) := by
          rw [List.zipIdx_map_snd]
          exact List.pairwise_lt_range'
        refine (List.pairwise_map.mp positions).imp fun less first firstMember second => ?_
        intro secondMember
        obtain ⟨_, _, rfl⟩ := List.mem_map.mp firstMember
        obtain ⟨_, _, rfl⟩ := List.mem_map.mp secondMember
        exact .beside less
      · intro inner innerMember root rootMember
        cases List.mem_singleton.mp rootMember
        obtain ⟨_, _, below⟩ := List.mem_flatMap.mp innerMember
        obtain ⟨_, _, rfl⟩ := List.mem_map.mp below
        exact .parent

/-- Every definition of a tree is listed once. -/
theorem nodup_places (definition : Definition) : (definition.nodes.map Prod.fst).Nodup := by
  refine List.pairwise_map.mpr ((pairwise_nodes definition).imp fun before same => ?_)
  exact Place.Before.irrefl _ (same ▸ before)

/-- At the end of a context the calls are compared in post-order, for every definition once. -/
theorem contextFailures_eq_flatMap (definition : Definition) :
    definition.contextFailures = definition.nodes.flatMap fun entry =>
      callCountFailures entry.2.path entry.2.expectedCalls entry.2.calls := by
  induction definition with
  | node definition ih =>
      have children : (definition.strategy.children.zipIdx.flatMap fun child =>
          child.1.2.contextFailures) =
            definition.strategy.children.flatMap fun child => child.2.contextFailures := by
        conv_rhs => rw [← List.zipIdx_map_fst 0 definition.strategy.children, List.flatMap_map]
      rw [contextFailures_eq, nodes_eq, List.flatMap_append, List.flatMap_assoc,
        List.flatMap_singleton, ← children]
      refine congrArg (· ++ _) (List.flatMap_congr fun child member => ?_)
      rw [List.flatMap_map]
      exact ih child.1 (List.fst_mem_of_mem_zipIdx member)

end Definition

end ApiMock
