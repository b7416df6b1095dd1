import ApiMock.Proofs.Schema.Component
import ApiMock.Proofs.Schema.FaultPath
import Mathlib

/-!
# The first fault

A definition fails to load exactly if one in it, or itself, fails by itself behind components that
all load. What comes behind does not matter: a definition that fails by itself does so whatever its
children are.
-/

set_option autoImplicit false

namespace ApiMock.Schema

/-- A map names a strategy, and its keys are those of definitions and of the strategy. -/
structure Admitted (path : String) (members : List (String × Value)) (kind : StrategyKind) :
    Prop where
  strategy : strategyOf? members = some kind
  keys : Succeeds (Fields.checkKeys ⟨path, members⟩ (definitionKeys ++ kind.keys))

/-- A definition has no fault of its own, its constraints and children apart. -/
structure Passes (files : Files) (path : String) (members : List (String × Value))
    (kind : StrategyKind) : Prop extends Admitted path members kind where
  constraints : Succeeds (Fields.checkConstraints ⟨path, members⟩)
  calls : Succeeds (callsOf ⟨path, members⟩)
  frame : Succeeds (kind.frame files ⟨path ++ "." ++ kind.name, members⟩)

/-- A definition in another one, with what is loaded before it: the constraints of the definitions
around it and the children that come first. -/
inductive Reached (files : Files) : Component → List Component → Component → Prop where
  | here {whole} : Reached files whole [] whole
  | child {path members kind before child after loaded node} :
      Passes files path members kind →
      (Component.definition path (.object members)).children = before ++ child :: after →
      Reached files child loaded node →
      Reached files (.definition path (.object members))
        ((Component.definition path (.object members)).constraints ++ before ++ loaded) node

/-- A definition fails at its own keys, at one of its constraints or at the keys of its strategy. No
child of it has its turn before that; the constraints that are loaded before are listed. -/
inductive FailsItself (files : Files) (path : String) : Value → List Component → Fault → Prop where
  | notMap {raw} :
      (∀ members, raw ≠ .object members) → FailsItself files path raw [] ⟨path, .definitionNotMap⟩
  | noStrategy {members} :
      (∀ name, members.lookup "strategy" ≠ some (.string name)) →
      FailsItself files path (.object members) [] ⟨path, .noStrategy⟩
  | unknownStrategy {members name} :
      members.lookup "strategy" = some (.string name) → StrategyKind.ofName? name = none →
      FailsItself files path (.object members) [] ⟨path, .unknownStrategy name⟩
  | keys {members kind fault} :
      strategyOf? members = some kind →
      Fields.checkKeys ⟨path, members⟩ (definitionKeys ++ kind.keys) = .error fault →
      fault.path = path → FailsItself files path (.object members) [] fault
  | noConstraints {members kind fault} :
      Admitted path members kind →
      Fields.checkConstraints ⟨path, members⟩ = .error fault → fault.path = path →
      FailsItself files path (.object members) [] fault
  | constraint {members kind before label raw after fault} :
      Admitted path members kind → Succeeds (Fields.checkConstraints ⟨path, members⟩) →
      (Component.definition path (.object members)).constraints =
        before ++ .constraint label raw :: after →
      loadConstraint label raw = .error fault →
      (fault.path = label ∨ fault.path = label ++ ".comparisonParams") →
      FailsItself files path (.object members) before fault
  | calls {members kind fault} :
      Admitted path members kind → Succeeds (Fields.checkConstraints ⟨path, members⟩) →
      callsOf ⟨path, members⟩ = .error fault → fault.path = path →
      FailsItself files path (.object members)
        (Component.definition path (.object members)).constraints fault
  | strategy {members kind fault} :
      Admitted path members kind → Succeeds (Fields.checkConstraints ⟨path, members⟩) →
      Succeeds (callsOf ⟨path, members⟩) →
      kind.frame files ⟨path ++ "." ++ kind.name, members⟩ = .error fault →
      fault.path = path ++ "." ++ kind.name →
      FailsItself files path (.object members)
        (Component.definition path (.object members)).constraints fault

/-- A component fails on its own, at its path. -/
def Component.FailsWith (files : Files) (fault : Fault) : Component → Prop
  | definition path raw => loadDefinition files path raw = .error fault
  | constraint path raw => loadConstraint path raw = .error fault

variable {files : Files} {path : String} {members : List (String × Value)} {kind : StrategyKind}
  {fault : Fault} {raw : Value}

/-! ## Stages of one definition -/

theorem loadDefinition_object_eq_error_iff (strategy : strategyOf? members = some kind) :
    loadDefinition files path (.object members) = .error fault ↔
      Fields.checkKeys ⟨path, members⟩ (definitionKeys ++ kind.keys) = .error fault ∨
      Succeeds (Fields.checkKeys ⟨path, members⟩ (definitionKeys ++ kind.keys)) ∧
        (constraintsOf ⟨path, members⟩ = .error fault ∨
        Succeeds (constraintsOf ⟨path, members⟩) ∧
          (callsOf ⟨path, members⟩ = .error fault ∨
          Succeeds (callsOf ⟨path, members⟩) ∧
            loadStrategy files (path ++ "." ++ kind.name) kind members = .error fault)) := by
  rw [loadDefinition_eq strategy]
  simp only [bind_eq_error_iff, pure_ne_error, and_false, exists_false, or_false,
    exists_and_right, Succeeds]

/-- Components that are loaded in their order fail as the first one that fails. -/
theorem mapM_eq_error_iff_of_map {β : Type} {check : String × Value → Except Fault β}
    {place : String × Value → Component} {entries : List (String × Value)}
    (loads : ∀ entry, (place entry).Loads files ↔ Succeeds (check entry))
    (fails : ∀ entry, (place entry).FailsWith files fault ↔ check entry = .error fault) :
    entries.mapM check = .error fault ↔
      ∃ before part after, entries.map place = before ++ part :: after ∧
        (∀ earlier ∈ before, earlier.Loads files) ∧ part.FailsWith files fault := by
  rw [mapM_eq_error_iff]
  constructor
  · rintro ⟨before, entry, after, rfl, earlier, here⟩
    refine ⟨before.map place, place entry, after.map place, ?_, ?_, (fails entry).mpr here⟩
    · rw [List.map_append, List.map_cons]
    · exact List.forall_mem_map.mpr fun other member => (loads other).mpr (earlier other member)
  · rintro ⟨_, _, _, parts, earlier, here⟩
    obtain ⟨before, rest, rfl, rfl, others⟩ := List.map_eq_append_iff.mp parts
    obtain ⟨entry, after, rfl, rfl, rfl⟩ := List.map_eq_cons_iff.mp others
    refine ⟨before, entry, after, rfl, fun other member => ?_, (fails entry).mp here⟩
    exact (loads other).mp (List.forall_mem_map.mp earlier other member)

theorem constraintsOf_eq_error_iff (files : Files) :
    constraintsOf ⟨path, members⟩ = .error fault ↔
      Fields.checkConstraints ⟨path, members⟩ = .error fault ∨
      Succeeds (Fields.checkConstraints ⟨path, members⟩) ∧ ∃ before part after,
        (Component.definition path (.object members)).constraints = before ++ part :: after ∧
        (∀ earlier ∈ before, earlier.Loads files) ∧ part.FailsWith files fault := by
  rw [constraintsOf_eq, bind_eq_error_iff, exists_and_right]
  exact or_congr_right (and_congr_right fun _ =>
    mapM_eq_error_iff_of_map (fun _ => Iff.rfl) fun _ => Iff.rfl)

theorem loadStrategy_eq_error_iff (strategy : strategyOf? members = some kind) :
    loadStrategy files (path ++ "." ++ kind.name) kind members = .error fault ↔
      kind.frame files ⟨path ++ "." ++ kind.name, members⟩ = .error fault ∨
      Succeeds (kind.frame files ⟨path ++ "." ++ kind.name, members⟩) ∧ ∃ before part after,
        (Component.definition path (.object members)).children = before ++ part :: after ∧
        (∀ earlier ∈ before, earlier.Loads files) ∧ part.FailsWith files fault := by
  rw [loadStrategy_eq, bind_eq_error_iff, Component.children_definition strategy]
  simp only [bind_pure_eq_error_iff]
  rw [exists_and_right, loadNamed_eq_mapM]
  refine or_congr_right (and_congr_right fun _ =>
    mapM_eq_error_iff_of_map (fun entry => ?_) fun entry => ?_)
  · rw [succeeds_bind_pure_iff]
    rfl
  · rw [bind_pure_eq_error_iff]
    rfl

/-! ## From the code to the first fault -/

theorem failsItself_of_strategyOf?_eq_none (unknown : strategyOf? members = none)
    (fails : loadDefinition files path (.object members) = .error fault) :
    FailsItself files path (.object members) [] fault := by
  rcases strategyOf?_eq_none_iff.mp unknown with nameless | ⟨name, found, nameless⟩
  · rw [loadDefinition_of_noStrategy nameless] at fails
    cases fails
    exact .noStrategy nameless
  · rw [loadDefinition_of_unknownStrategy found nameless] at fails
    cases fails
    exact .unknownStrategy found nameless

/-- A definition that is not loaded fails by itself, or the first child of it that fails does. -/
theorem failsItself_or_child (fails : loadDefinition files path (.object members) = .error fault) :
    (∃ own, FailsItself files path (.object members) own fault ∧ ∀ part ∈ own, part.Loads files) ∨
    (∃ kind, Passes files path members kind) ∧
      (∀ part ∈ (Component.definition path (.object members)).constraints, part.Loads files) ∧
      ∃ before part after,
        (Component.definition path (.object members)).children = before ++ part :: after ∧
        (∀ earlier ∈ before, earlier.Loads files) ∧ part.FailsWith files fault := by
  -- stage by stage: a fault behind a stage needs what the stage has passed
  cases strategy : strategyOf? members with
  | none => exact .inl ⟨[], failsItself_of_strategyOf?_eq_none strategy fails, List.forall_mem_nil _⟩
  | some kind =>
      rcases (loadDefinition_object_eq_error_iff strategy).mp fails with keys | ⟨keys, fails⟩
      · exact .inl ⟨[], .keys strategy keys (FaultsAt.path_eq (Fields.faultsAt_checkKeys rfl) keys),
          List.forall_mem_nil _⟩
      have admitted : Admitted path members kind := ⟨strategy, keys⟩
      rcases fails with constraints | ⟨constraints, fails⟩
      · rcases (constraintsOf_eq_error_iff files).mp constraints with
          missing | ⟨listed, before, part, after, parts, earlier, here⟩
        · exact .inl ⟨[], .noConstraints admitted missing
            (FaultsAt.path_eq (faultsAt_checkConstraints rfl) missing), List.forall_mem_nil _⟩
        · have member : part ∈ (Component.definition path (.object members)).constraints := by
            simp [parts]
          obtain ⟨entry, _, rfl⟩ := List.mem_map.mp member
          exact .inl ⟨before, .constraint admitted listed parts here
            (faultsAt_loadConstraint _ here), earlier⟩
      obtain ⟨listed, loaded⟩ := Component.succeeds_constraintsOf_iff_loads.mp constraints
      rcases fails with calls | ⟨calls, fails⟩
      · exact .inl ⟨_, .calls admitted listed calls (FaultsAt.path_eq (faultsAt_callsOf rfl) calls),
          loaded⟩
      rcases (loadStrategy_eq_error_iff strategy).mp fails with own | ⟨frame, child⟩
      · exact .inl ⟨_, .strategy admitted listed calls own
          (FaultsAt.path_eq (faultsAt_frame rfl) own), loaded⟩
      · exact .inr ⟨⟨kind, admitted, listed, calls, frame⟩, loaded, child⟩

/-! ## From the first fault to the code -/

/-- A definition that fails by itself does so whatever its children are. -/
theorem FailsItself.fails {own : List Component} (itself : FailsItself files path raw own fault)
    (loads : ∀ part ∈ own, part.Loads files) : loadDefinition files path raw = .error fault := by
  cases itself with
  | notMap noMap => exact loadDefinition_of_not_object noMap
  | noStrategy nameless => exact loadDefinition_of_noStrategy nameless
  | unknownStrategy found unknown => exact loadDefinition_of_unknownStrategy found unknown
  | keys strategy keys _ => exact (loadDefinition_object_eq_error_iff strategy).mpr (.inl keys)
  | noConstraints admitted missing _ =>
      have constraints := (constraintsOf_eq_error_iff files).mpr (.inl missing)
      exact (loadDefinition_object_eq_error_iff admitted.strategy).mpr
        (.inr ⟨admitted.keys, .inl constraints⟩)
  | constraint admitted listed parts here _ =>
      have constraints :=
        (constraintsOf_eq_error_iff files).mpr (.inr ⟨listed, _, _, _, parts, loads, here⟩)
      exact (loadDefinition_object_eq_error_iff admitted.strategy).mpr
        (.inr ⟨admitted.keys, .inl constraints⟩)
  | calls admitted listed calls _ =>
      have constraints := Component.succeeds_constraintsOf_iff_loads.mpr ⟨listed, loads⟩
      exact (loadDefinition_object_eq_error_iff admitted.strategy).mpr
        (.inr ⟨admitted.keys, .inr ⟨constraints, .inl calls⟩⟩)
  | strategy admitted listed calls own _ =>
      have constraints := Component.succeeds_constraintsOf_iff_loads.mpr ⟨listed, loads⟩
      have strategy := (loadStrategy_eq_error_iff admitted.strategy).mpr (.inl own)
      exact (loadDefinition_object_eq_error_iff admitted.strategy).mpr
        (.inr ⟨admitted.keys, .inr ⟨constraints, .inr ⟨calls, strategy⟩⟩⟩)

theorem Reached.failsWith {whole node : Component} {loaded : List Component}
    (reached : Reached files whole loaded node) (loads : ∀ part ∈ loaded, part.Loads files)
    (fails : node.FailsWith files fault) : whole.FailsWith files fault := by
  induction reached with
  | here => exact fails
  | child passes parts _ ih =>
      rw [List.forall_mem_append, List.forall_mem_append] at loads
      obtain ⟨⟨constraints, earlier⟩, behind⟩ := loads
      have listed := Component.succeeds_constraintsOf_iff_loads.mpr ⟨passes.constraints, constraints⟩
      have strategy := (loadStrategy_eq_error_iff passes.strategy).mpr
        (.inr ⟨passes.frame, _, _, _, parts, earlier, ih behind fails⟩)
      exact (loadDefinition_object_eq_error_iff passes.strategy).mpr
        (.inr ⟨passes.keys, .inr ⟨listed, .inr ⟨passes.calls, strategy⟩⟩⟩)

/-! ## Whole configurations -/

theorem exists_reached_of_fails (fails : loadDefinition files path raw = .error fault) :
    ∃ loaded own label node,
      Reached files (.definition path raw) loaded (.definition label node) ∧
      (∀ part ∈ loaded ++ own, part.Loads files) ∧ FailsItself files label node own fault := by
  -- children are loaded at longer paths, so the induction is for all paths at once
  induction raw using inductionOnComponents generalizing path with
  | step raw ih =>
      by_cases map : ∃ members, raw = .object members
      · obtain ⟨members, rfl⟩ := map
        rcases failsItself_or_child fails with
          ⟨own, itself, loads⟩ |
          ⟨⟨kind, passes⟩, constraints, before, part, after, parts, earlier, below⟩
        · exact ⟨[], own, path, _, .here, loads, itself⟩
        · have member : part ∈ (Component.definition path (.object members)).children := by
            simp [parts]
          have listed := member
          rw [Component.children_definition passes.strategy] at listed
          obtain ⟨entry, _, rfl⟩ := List.mem_map.mp listed
          obtain ⟨loaded, own, label, node, reached, loads, itself⟩ := ih _ _ _ member below
          refine ⟨_, own, label, node, .child passes parts reached, ?_, itself⟩
          simp only [List.forall_mem_append] at loads ⊢
          exact ⟨⟨⟨constraints, earlier⟩, loads.1⟩, loads.2⟩
      · have noMap : ∀ members, raw ≠ .object members := fun members same => map ⟨members, same⟩
        rw [loadDefinition_of_not_object noMap] at fails
        cases fails
        exact ⟨[], [], path, raw, .here, List.forall_mem_nil _, .notMap noMap⟩

/-- The fault of a configuration is that of a definition in it which fails with it at its own label,
by itself, and whatever is loaded before loads on its own, down to the last component. Wherever a
definition fails by itself like that, its fault is that of the whole, whatever comes behind. -/
theorem loadDefinition_first_fault :
    (loadDefinition files path raw = .error fault →
      ∃ loaded own label node,
        Reached files (.definition path raw) loaded (.definition label node) ∧
        (∀ part ∈ loaded ++ own, ∀ inner, Inside inner part → inner.Loads files) ∧
        loadDefinition files label node = .error fault ∧
        FailsItself files label node own fault) ∧
    ∀ loaded own label node,
      Reached files (.definition path raw) loaded (.definition label node) →
      (∀ part ∈ loaded ++ own, part.Loads files) → FailsItself files label node own fault →
      loadDefinition files path raw = .error fault := by
  constructor
  · intro fails
    obtain ⟨loaded, own, label, node, reached, loads, itself⟩ := exists_reached_of_fails fails
    refine ⟨loaded, own, label, node, reached, fun part member inner inside => ?_, ?_, itself⟩
    · exact Component.loads_of_inside (loads part member) inside
    · exact itself.fails fun part member => loads part (List.mem_append_right _ member)
  · intro loaded own label node reached loads itself
    rw [List.forall_mem_append] at loads
    exact reached.failsWith loads.1 (itself.fails loads.2)

/-- The second constraint of the second step of a sequence is wrong. All before it are loaded. -/
theorem loadDefinition_first_fault_of_nested_constraint :
    let nop : Value := .object [("strategy", .string "nop")]
    let guarded : Value := .object [
      ("requestConstraints", .array [
        .object [("kind", .string "nop")], .object [("kind", .string "methodIs")]]),
      ("strategy", .string "nop")]
    let steps : Value :=
      .object [("sequence", .array [nop, guarded]), ("strategy", .string "sequence")]
    let raw : Value := .object [
      ("methods", .object [("GET", nop), ("POST", steps)]), ("strategy", .string "methodVary")]
    let fault : Fault :=
      ⟨"$.methodVary.POST.sequence.1.requestConstraints[1]", .missingKey "method"⟩
    loadDefinition (.ofList []) "$" raw = .error fault ∧
      ∃ loaded own label node,
        Reached (.ofList []) (.definition "$" raw) loaded (.definition label node) ∧
        (∀ part ∈ loaded ++ own, ∀ inner, Inside inner part → inner.Loads (.ofList [])) ∧
        loadDefinition (.ofList []) label node = .error fault ∧
        FailsItself (.ofList []) label node own fault := by
  intro nop guarded steps raw fault
  have fails : loadDefinition (.ofList []) "$" raw = .error fault := by
    simp only [nop, guarded, steps, raw, fault]
    cbv
  exact ⟨fails, loadDefinition_first_fault.1 fails⟩

end ApiMock.Schema
