import ApiMock.Proofs.Definition.Run
import ApiMock.Proofs.Schema.Stages

/-!
# Loaded definitions

What a definition that is loaded consists of, and that it has not been called: counters and
positions are zero at every place of its tree.
-/

set_option autoImplicit false

namespace ApiMock.Schema

variable {files : Files} {path : String} {members : List (String × Value)}

/-- The name of a strategy in configurations. -/
def StrategyKind.name : StrategyKind → String
  | nop => "nop"
  | dropRequest => "dropRequest"
  | uriVary => "uriVary"
  | methodVary => "methodVary"
  | sequence => "sequence"
  | basedOnRequest => "basedOnRequest"
  | file => "file"
  | constant => "constant"
  | template => "template"

theorem StrategyKind.ofName?_eq_some_iff {name : String} {kind : StrategyKind} :
    ofName? name = some kind ↔ name = kind.name := by
  constructor
  · intro known
    unfold ofName? at known
    split at known <;> cases known <;> rfl
  · rintro rfl
    cases kind <;> rfl

/-- Induction over the maps and lists at the keys of a map. -/
theorem inductionOnChildren {motive : Value → Prop}
    (object : ∀ members : List (String × Value),
      (∀ key children, members.lookup key = some (.object children) →
        ∀ child ∈ children, motive child.2) →
      (∀ key items, members.lookup key = some (.array items) → ∀ item ∈ items, motive item) →
      motive (.object members))
    (other : ∀ raw : Value, (∀ members, raw ≠ .object members) → motive raw) :
    ∀ raw, motive raw
  | .object members => object members
      (fun _ _ _ child _ => inductionOnChildren object other child.2)
      (fun _ _ _ item _ => inductionOnChildren object other item)
  | .null => other _ nofun
  | .bool _ => other _ nofun
  | .number _ => other _ nofun
  | .string _ => other _ nofun
  | .array _ => other _ nofun
termination_by raw => sizeOf raw
decreasing_by
  · rename_i found member
    have inside := sizeOf_object_lt found
    have smaller := List.sizeOf_lt_of_mem member
    obtain ⟨name, value⟩ := child
    simp only [Prod.mk.sizeOf_spec] at smaller
    simp only [Value.object.sizeOf_spec]
    omega
  · rename_i found member
    have inside := sizeOf_array_lt found
    have smaller := List.sizeOf_lt_of_mem member
    simp only [Value.object.sizeOf_spec]
    omega

/-! ## Stages of a definition -/

/-- The strategy that a map names. -/
def strategyOf? (members : List (String × Value)) : Option StrategyKind :=
  ((members.lookup "strategy").bind Value.string?).bind StrategyKind.ofName?

theorem strategyOf?_eq_some_iff {kind : StrategyKind} :
    strategyOf? members = some kind ↔ members.lookup "strategy" = some (.string kind.name) := by
  simp only [strategyOf?, Option.bind_eq_some_iff, StrategyKind.ofName?_eq_some_iff]
  constructor
  · rintro ⟨_, ⟨value, found, text⟩, rfl⟩
    cases value with
    | string => cases text; exact found
    | _ => cases text
  · intro found
    exact ⟨kind.name, ⟨_, found, rfl⟩, rfl⟩

theorem strategyOf?_eq_none_iff :
    strategyOf? members = none ↔
      (∀ name, members.lookup "strategy" ≠ some (.string name)) ∨
      ∃ name, members.lookup "strategy" = some (.string name) ∧
        StrategyKind.ofName? name = none := by
  unfold strategyOf?
  cases members.lookup "strategy" with
  | none => simp
  | some value => cases value <;> simp [Value.string?]

theorem loadDefinition_of_noStrategy
    (nameless : ∀ name, members.lookup "strategy" ≠ some (.string name)) :
    loadDefinition files path (.object members) = .error ⟨path, .noStrategy⟩ := by
  rw [loadDefinition]
  simp only [Fields.get?]
  rfl

theorem loadDefinition_of_unknownStrategy {name : String}
    (found : members.lookup "strategy" = some (.string name))
    (unknown : StrategyKind.ofName? name = none) :
    loadDefinition files path (.object members) = .error ⟨path, .unknownStrategy name⟩ := by
  rw [loadDefinition]
  simp only [Fields.get?, found, unknown]
  rfl

/-- A definition checks its keys, loads its constraints, reads the calls and loads its strategy. -/
theorem loadDefinition_eq {kind : StrategyKind} (strategy : strategyOf? members = some kind) :
    loadDefinition files path (.object members) = do
      Fields.checkKeys ⟨path, members⟩ (definitionKeys ++ kind.keys)
      let constraints ← constraintsOf ⟨path, members⟩
      let expectedCalls ← callsOf ⟨path, members⟩
      let strategy ← loadStrategy files (path ++ "." ++ kind.name) kind members
      return { path, constraints, strategy, expectedCalls } := by
  have named := strategyOf?_eq_some_iff.mp strategy
  rw [loadDefinition]
  simp only [Fields.get?, named, StrategyKind.ofName?_eq_some_iff.mpr rfl]

theorem loadDefinition_object_eq_ok_iff {definition : Definition} :
    loadDefinition files path (.object members) = .ok definition ↔
      ∃ (kind : StrategyKind) (constraints : List Constraint) (expectedCalls : Option Nat)
        (strategy : Strategy),
        members.lookup "strategy" = some (.string kind.name) ∧
        Fields.checkKeys ⟨path, members⟩ (definitionKeys ++ kind.keys) = .ok () ∧
        constraintsOf ⟨path, members⟩ = .ok constraints ∧
        callsOf ⟨path, members⟩ = .ok expectedCalls ∧
        loadStrategy files (path ++ "." ++ kind.name) kind members = .ok strategy ∧
        { path, constraints, strategy, expectedCalls } = definition := by
  constructor
  · intro loaded
    cases strategy : strategyOf? members with
    | none =>
        rcases strategyOf?_eq_none_iff.mp strategy with nameless | ⟨name, found, unknown⟩
        · rw [loadDefinition_of_noStrategy nameless] at loaded
          cases loaded
        · rw [loadDefinition_of_unknownStrategy found unknown] at loaded
          cases loaded
    | some kind =>
        rw [loadDefinition_eq strategy] at loaded
        simp only [bind_eq_ok_iff, pure_eq_ok_iff] at loaded
        obtain ⟨_, keys, constraints, listed, calls, counted, replying, replies, made⟩ := loaded
        have found := strategyOf?_eq_some_iff.mp strategy
        exact ⟨kind, constraints, calls, replying, found, keys, listed, counted, replies, made⟩
  · rintro ⟨kind, constraints, calls, strategy, found, keys, listed, counted, replies, made⟩
    rw [loadDefinition_eq (strategyOf?_eq_some_iff.mpr found)]
    simp only [bind_eq_ok_iff, pure_eq_ok_iff]
    exact ⟨(), keys, constraints, listed, calls, counted, strategy, replies, made⟩

theorem loadDefinition_of_not_object {raw : Value} (noMap : ∀ members, raw ≠ .object members) :
    loadDefinition files path raw = .error ⟨path, .definitionNotMap⟩ := by
  rw [loadDefinition]
  exact noMap

/-! ## Definitions below -/

/-- What is made of loaded children dispatches to them, and a sequence begins with its first step. -/
theorem exists_loadNamed_of_loadStrategy {kind : StrategyKind} {strategy : Strategy}
    (succeeds : loadStrategy files path kind members = .ok strategy) :
    ∃ loaded, loadNamed files path (kind.entries members) = .ok loaded ∧
      strategy.children.map Prod.snd = loaded.map Prod.snd ∧
      ∀ position children, strategy = .dispatch (.sequence position) children → position = 0 := by
  rw [loadStrategy_eq] at succeeds
  simp only [bind_eq_ok_iff, pure_eq_ok_iff] at succeeds
  obtain ⟨assemble, framed, loaded, below, rfl⟩ := succeeds
  refine ⟨loaded, below, ?_⟩
  cases kind with
  | nop | dropRequest =>
      cases loadNamed_nil.symm.trans below
      cases framed
      exact ⟨rfl, fun _ _ same => by cases same⟩
  | constant =>
      cases loadNamed_nil.symm.trans below
      simp only [StrategyKind.frame, constantReply, bind_eq_ok_iff, pure_eq_ok_iff] at framed
      obtain ⟨_, ⟨body, _, head, _, rfl⟩, rfl⟩ := framed
      exact ⟨rfl, fun _ _ same => by cases same⟩
  | file =>
      cases loadNamed_nil.symm.trans below
      simp only [StrategyKind.frame, fileReply, bind_eq_ok_iff, pure_eq_ok_iff] at framed
      obtain ⟨_, ⟨path, _, head, _, content⟩, rfl⟩ := framed
      split at content <;> cases content
      exact ⟨rfl, fun _ _ same => by cases same⟩
  | template =>
      cases loadNamed_nil.symm.trans below
      simp only [StrategyKind.frame, templateReply, bind_eq_ok_iff, pure_eq_ok_iff] at framed
      obtain ⟨_, ⟨body, _, head, _, compiled⟩, rfl⟩ := framed
      split at compiled <;> cases compiled
      exact ⟨rfl, fun _ _ same => by cases same⟩
  | uriVary =>
      simp only [StrategyKind.frame, bind_eq_ok_iff, pure_eq_ok_iff] at framed
      obtain ⟨base, _, _, _, rfl⟩ := framed
      exact ⟨by simp [Strategy.byUri], fun _ _ same => by cases same⟩
  | methodVary | basedOnRequest =>
      simp only [StrategyKind.frame, bind_eq_ok_iff, pure_eq_ok_iff] at framed
      obtain ⟨_, _, rfl⟩ := framed
      exact ⟨rfl, fun _ _ same => by cases same⟩
  | sequence =>
      simp only [StrategyKind.frame, bind_eq_ok_iff, pure_eq_ok_iff] at framed
      obtain ⟨_, _, rfl⟩ := framed
      exact ⟨rfl, fun position children same => by cases same; rfl⟩

section

variable {raw : Value} {definition : Definition}

theorem exists_object_of_loadDefinition (succeeds : loadDefinition files path raw = .ok definition) :
    ∃ members, raw = .object members := by
  by_contra noMap
  rw [loadDefinition_of_not_object fun members same => noMap ⟨members, same⟩] at succeeds
  cases succeeds

theorem path_of_loadDefinition (succeeds : loadDefinition files path raw = .ok definition) :
    definition.path = path := by
  obtain ⟨members, rfl⟩ := exists_object_of_loadDefinition succeeds
  obtain ⟨_, _, _, _, _, _, _, _, _, rfl⟩ := loadDefinition_object_eq_ok_iff.mp succeeds
  rfl

/-- The child at a position is loaded from the configuration at that position. -/
theorem exists_entry_of_child? {position : Nat} {child : Definition}
    (succeeds : loadDefinition files path raw = .ok definition)
    (found : definition.child? position = some child) :
    ∃ members kind key inner, raw = .object members ∧
      members.lookup "strategy" = some (.string (StrategyKind.name kind)) ∧
      (kind.entries members)[position]? = some (key, inner) ∧
      loadDefinition files (path ++ "." ++ kind.name ++ "." ++ key) inner = .ok child := by
  obtain ⟨members, rfl⟩ := exists_object_of_loadDefinition succeeds
  obtain ⟨kind, _, _, strategy, named, _, _, _, replies, rfl⟩ :=
    loadDefinition_object_eq_ok_iff.mp succeeds
  obtain ⟨loaded, below, same, _⟩ := exists_loadNamed_of_loadStrategy replies
  have here : (loaded.map Prod.snd)[position]? = some child := by
    rw [← same, List.getElem?_map]
    exact found
  rw [List.getElem?_map, Option.map_eq_some_iff] at here
  obtain ⟨⟨key, _⟩, here, rfl⟩ := here
  obtain ⟨inner, entry, loads⟩ := exists_getElem?_of_loadNamed below here
  exact ⟨members, kind, key, inner, rfl, named, entry, loads⟩

theorem fresh_of_loadDefinition (succeeds : loadDefinition files path raw = .ok definition) :
    definition.Fresh := by
  -- along the loaded tree: every child of it was loaded from some value at some path
  induction definition generalizing path raw with
  | node definition ih =>
      refine Definition.forall_node_iff.mpr ⟨?_, fun child member => ?_⟩
      · obtain ⟨members, rfl⟩ := exists_object_of_loadDefinition succeeds
        obtain ⟨_, _, _, _, _, _, _, _, replies, rfl⟩ := loadDefinition_object_eq_ok_iff.mp succeeds
        obtain ⟨_, _, _, start⟩ := exists_loadNamed_of_loadStrategy replies
        exact ⟨rfl, start⟩
      · obtain ⟨position, here⟩ := List.mem_iff_getElem?.mp member
        have found := Definition.child?_eq_some_iff.mpr ⟨child.1, here⟩
        obtain ⟨_, _, _, _, _, _, _, below⟩ := exists_entry_of_child? succeeds found
        exact ih child member below

end

end ApiMock.Schema
