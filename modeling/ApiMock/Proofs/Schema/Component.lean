import ApiMock.Proofs.Schema.Loading

/-!
# Components of configurations

A configuration consists of definitions and constraints, each with the path at which it is loaded.
Whatever is loaded is made of components that are loaded too.
-/

set_option autoImplicit false

namespace ApiMock.Schema

variable {files : Files} {path : String} {raw : Value} {members : List (String × Value)}

inductive Component where
  | definition (path : String) (raw : Value)
  | constraint (path : String) (raw : Value)

namespace Component

/-- The constraint of an entry of the definition at a path. -/
def constraintAt (path : String) (entry : String × Value) : Component :=
  constraint (path ++ ".requestConstraints[" ++ entry.1 ++ "]") entry.2

/-- The child of an entry of the strategy at a path. -/
def childAt (path : String) (entry : String × Value) : Component :=
  definition (path ++ "." ++ entry.1) entry.2

/-- The constraints of a definition, in their order. -/
def constraints : Component → List Component
  | definition path (.object members) => (constraintEntries members).map (constraintAt path)
  | _ => []

/-- The children of a definition, in the order in which they are loaded. -/
def children : Component → List Component
  | definition path (.object members) =>
    match strategyOf? members with
    | some kind => (kind.entries members).map (childAt (path ++ "." ++ kind.name))
    | none => []
  | _ => []

/-- A component loads on its own, at its path. -/
def Loads (files : Files) : Component → Prop
  | definition path raw => Succeeds (loadDefinition files path raw)
  | constraint path raw => Succeeds (loadConstraint path raw)

end Component

/-- The components that a component consists of. -/
inductive Inside : Component → Component → Prop where
  | self {whole} : Inside whole whole
  | constraint {whole part} : part ∈ whole.constraints → Inside part whole
  | child {whole child part} : child ∈ whole.children → Inside part child → Inside part whole

theorem forall_inside_iff {property : Component → Prop} {whole : Component} :
    (∀ part, Inside part whole → property part) ↔
      property whole ∧ (∀ part ∈ whole.constraints, property part) ∧
        ∀ child ∈ whole.children, ∀ part, Inside part child → property part := by
  constructor
  · intro all
    exact ⟨all _ .self, fun part member => all part (.constraint member),
      fun child member part inside => all part (.child member inside)⟩
  · rintro ⟨root, constraints, children⟩ part inside
    cases inside with
    | self => exact root
    | constraint member => exact constraints part member
    | child member inside => exact children _ member part inside

namespace Component

theorem children_definition {kind : StrategyKind} (strategy : strategyOf? members = some kind) :
    (definition path (.object members)).children =
      (kind.entries members).map (childAt (path ++ "." ++ kind.name)) := by
  rw [children, strategy]

end Component

theorem inductionOnComponents {motive : Value → Prop}
    (step : ∀ raw, (∀ path label inner,
      Component.definition label inner ∈ (Component.definition path raw).children →
        motive inner) → motive raw) (raw : Value) : motive raw := by
  induction raw using inductionOnChildren with
  | other raw noMap =>
      refine step raw fun path label inner member => ?_
      cases raw with
      | object members => exact absurd rfl (noMap members)
      | _ => cases member
  | object members named numbered =>
      refine step _ fun path label inner member => ?_
      cases strategy : strategyOf? members with
      | none => rw [Component.children, strategy] at member; cases member
      | some kind =>
          rw [Component.children_definition strategy, List.mem_map] at member
          obtain ⟨entry, member, same⟩ := member
          cases same
          rcases entries_cases kind members with
            none | ⟨key, inside, _, found, same⟩ | ⟨key, items, found, same⟩
          · rw [none] at member
            cases member
          · exact named key inside found entry (same ▸ member)
          · exact numbered key items found _ (mem_numberedFrom (same ▸ member)).2

namespace Component

/-! ## Components of what is loaded -/

theorem succeeds_constraintsOf_iff_loads :
    Succeeds (constraintsOf ⟨path, members⟩) ↔
      Succeeds (Fields.checkConstraints ⟨path, members⟩) ∧
        ∀ part ∈ (definition path (.object members)).constraints, part.Loads files := by
  rw [constraintsOf_eq, succeeds_bind_iff, exists_and_right, succeeds_mapM_iff,
    constraints, List.forall_mem_map]
  rfl

theorem loads_of_mem_constraints {part whole : Component} (loads : whole.Loads files)
    (member : part ∈ whole.constraints) : part.Loads files := by
  cases whole with
  | constraint => cases member
  | definition path raw =>
      obtain ⟨definition, succeeds⟩ := loads
      obtain ⟨members, rfl⟩ := exists_object_of_loadDefinition succeeds
      obtain ⟨_, constraints, _, _, _, _, listed, _⟩ := loadDefinition_object_eq_ok_iff.mp succeeds
      exact (succeeds_constraintsOf_iff_loads.mp ⟨constraints, listed⟩).2 part member

theorem loads_of_mem_children {part whole : Component} (loads : whole.Loads files)
    (member : part ∈ whole.children) : part.Loads files := by
  cases whole with
  | constraint => cases member
  | definition path raw =>
      obtain ⟨definition, succeeds⟩ := loads
      obtain ⟨members, rfl⟩ := exists_object_of_loadDefinition succeeds
      obtain ⟨kind, _, _, _, named, _, _, _, replies, _⟩ :=
        loadDefinition_object_eq_ok_iff.mp succeeds
      rw [children_definition (strategyOf?_eq_some_iff.mpr named)] at member
      obtain ⟨entry, inside, rfl⟩ := List.mem_map.mp member
      obtain ⟨loaded, each, _⟩ := exists_loadNamed_of_loadStrategy replies
      rw [loadNamed_eq_mapM] at each
      exact succeeds_bind_pure_iff.mp (succeeds_mapM_iff.mp ⟨loaded, each⟩ entry inside)

theorem loads_of_inside {part whole : Component} (loads : whole.Loads files)
    (inside : Inside part whole) : part.Loads files := by
  induction inside with
  | self => exact loads
  | constraint member => exact loads_of_mem_constraints loads member
  | child member _ ih => exact ih (loads_of_mem_children loads member)

end Component

end ApiMock.Schema
