import ApiMock.Proofs.Definition.DistinctPaths
import ApiMock.Proofs.Schema.Component
import ApiMock.Proofs.Text.Chunks
import ApiMock.Proofs.Text.Digits
import ApiMock.Proofs.Value.Part
import Mathlib

/-!
# Labels of loaded definitions

The path of a definition is the path of the configuration followed by the names of strategies and
children on the way down, each behind a point. Where no key holds a point the way can be read off the
path: so no two definitions have the same one.
-/

set_option autoImplicit false

namespace ApiMock.Schema

variable {files : Files} {path : String} {raw : Value} {members : List (String × Value)}
  {definition node twin : Definition} {place other : Place}

/-- No key of a map of paths or of methods holds a point. -/
def Component.KeysPlain : Component → Prop
  | .definition _ (.object members) => ∀ key ∈ ["uris", "methods"], ∀ children,
      members.lookup key = some (.object children) → ∀ name ∈ Keyed.keys children, '.' ∉ name.toList
  | _ => True

/-! ## Keys of children -/

theorem StrategyKind.point_notMem_name (kind : StrategyKind) : '.' ∉ kind.name.toList := by
  cases kind <;> decide

theorem point_notMem_toString (n : Nat) : '.' ∉ (toString n).toList := by
  intro member
  rw [Nat.toString_eq_repr, Nat.toList_repr] at member
  exact absurd (isDigit_of_mem_toDigits member) (by decide)

theorem nodup_keys_numberedFrom {α : Type} (index : Nat) (items : List α) :
    (Keyed.keys (numberedFrom index items)).Nodup := by
  have positions : ((items.zipIdx index).map Prod.snd).Nodup := by
    rw [List.zipIdx_map_snd]
    exact List.nodup_range'
  rw [Keyed.keys, numberedFrom, List.map_map]
  refine List.pairwise_map.mpr ((List.pairwise_map.mp positions).imp fun differ same => ?_)
  exact differ (eq_of_toString_eq same)

theorem nodup_keys_entries (wellFormed : (Value.object members).WellFormed) (kind : StrategyKind) :
    (Keyed.keys (kind.entries members)).Nodup := by
  rcases entries_cases kind members with
    none | ⟨key, children, _, found, same⟩ | ⟨key, items, found, same⟩
  · rw [none]
    exact List.nodup_nil
  · rw [same]
    exact (wellFormed.value (Keyed.mem_of_lookup found)).names.nodup
  · rw [same]
    exact nodup_keys_numberedFrom 0 items

theorem wellFormed_of_mem_entries (wellFormed : (Value.object members).WellFormed)
    {kind : StrategyKind} {entry : String × Value} (member : entry ∈ kind.entries members) :
    entry.2.WellFormed := by
  rcases entries_cases kind members with
    none | ⟨key, children, _, found, same⟩ | ⟨key, items, found, same⟩
  · rw [none] at member
    cases member
  · exact (wellFormed.value (Keyed.mem_of_lookup found)).value (same ▸ member)
  · have inside := (mem_numberedFrom (same ▸ member)).2
    exact (wellFormed.value (Keyed.mem_of_lookup found)).item inside

theorem point_notMem_of_mem_entries {kind : StrategyKind} {entry : String × Value}
    (plain : (Component.definition path (.object members)).KeysPlain)
    (member : entry ∈ kind.entries members) : '.' ∉ entry.1.toList := by
  rcases entries_cases kind members with
    none | ⟨key, children, map, found, same⟩ | ⟨key, items, found, same⟩
  · rw [none] at member
    cases member
  · exact plain key map children found _ (List.mem_map.mpr ⟨entry, same ▸ member, rfl⟩)
  · obtain ⟨⟨position, name⟩, _⟩ := mem_numberedFrom (same ▸ member)
    rw [name]
    exact point_notMem_toString position

theorem position_eq_of_key_eq {α : Type} {entries : List (String × α)} {key : String}
    {value otherValue : α} {position otherPosition : Nat} (distinct : (Keyed.keys entries).Nodup)
    (found : entries[position]? = some (key, value))
    (otherFound : entries[otherPosition]? = some (key, otherValue)) : position = otherPosition := by
  have inside : position < (Keyed.keys entries).length := by
    rw [Keyed.keys, List.length_map]
    exact (List.getElem?_eq_some_iff.mp found).1
  refine (List.getElem?_inj inside distinct).mp ?_
  simp only [Keyed.keys, List.getElem?_map, found, otherFound, Option.map_some]

/-! ## Paths of definitions -/

/-- A definition that is loaded from a configuration without points in the keys of its maps. -/
structure PlainlyLoaded (files : Files) (path : String) (raw : Value) (definition : Definition) :
    Prop where
  loads : loadDefinition files path raw = .ok definition
  wellFormed : raw.WellFormed
  plain : ∀ part, Inside part (.definition path raw) → part.KeysPlain

theorem not_point_of_mem {name : List Char} (plain : '.' ∉ name) :
    ∀ c ∈ name, (c == '.') = false := by
  intro c member
  exact beq_eq_false_iff_ne.mpr fun same => plain (same ▸ member)

theorem isChunk_point {name : List Char} (plain : '.' ∉ name) :
    IsChunk (fun c => c == '.') ('.' :: name) :=
  ⟨'.', name, rfl, rfl, not_point_of_mem plain⟩

namespace PlainlyLoaded

theorem child {position : Nat} {child : Definition}
    (loaded : PlainlyLoaded files path raw definition)
    (found : definition.child? position = some child) :
    ∃ members kind key inner, raw = .object members ∧
      members.lookup "strategy" = some (.string (StrategyKind.name kind)) ∧
      (kind.entries members)[position]? = some (key, inner) ∧ '.' ∉ key.toList ∧
      PlainlyLoaded files (path ++ "." ++ kind.name ++ "." ++ key) inner child := by
  obtain ⟨members, kind, key, inner, rfl, strategy, entry, below⟩ :=
    exists_entry_of_child? loaded.loads found
  have member := List.mem_of_getElem? entry
  have listed : .childAt (path ++ "." ++ kind.name) (key, inner) ∈
      (Component.definition path (.object members)).children := by
    rw [Component.children_definition (strategyOf?_eq_some_iff.mpr strategy)]
    exact List.mem_map.mpr ⟨_, member, rfl⟩
  refine ⟨members, kind, key, inner, rfl, strategy, entry,
    point_notMem_of_mem_entries (loaded.plain _ .self) member, below,
    wellFormed_of_mem_entries loaded.wellFormed member, fun part inside => ?_⟩
  exact loaded.plain part (.child listed inside)

/-- The path of a definition goes on with two names behind points for each step down to it. -/
theorem exists_chunks (loaded : PlainlyLoaded files path raw definition)
    (found : definition.node? place = some node) :
    ∃ chunks : List (List Char), (∀ chunk ∈ chunks, IsChunk (fun c => c == '.') chunk) ∧
      chunks.length = 2 * place.length ∧
      node.path.toList = path.toList ++ chunks.flatten := by
  induction place generalizing definition path raw with
  | nil =>
      cases found
      refine ⟨[], List.forall_mem_nil _, rfl, ?_⟩
      rw [path_of_loadDefinition loaded.loads, List.flatten_nil, List.append_nil]
  | cons position place ih =>
      obtain ⟨child, here, behind⟩ := Definition.node?_cons_eq_some_iff.mp found
      obtain ⟨members, kind, key, inner, rfl, _, _, plain, below⟩ := loaded.child here
      obtain ⟨chunks, each, length, path⟩ := ih below behind
      refine ⟨('.' :: kind.name.toList) :: ('.' :: key.toList) :: chunks, ?_, ?_, ?_⟩
      · exact List.forall_mem_cons.mpr ⟨isChunk_point kind.point_notMem_name,
          List.forall_mem_cons.mpr ⟨isChunk_point plain, each⟩⟩
      · simp only [List.length_cons, length]
        omega
      · rw [path]
        simp [String.toList_append]

theorem path_ne_of_below {position : Nat} (loaded : PlainlyLoaded files path raw definition)
    (found : definition.node? (position :: place) = some node) : definition.path ≠ node.path := by
  intro same
  obtain ⟨chunks, each, length, longer⟩ := loaded.exists_chunks found
  rw [path_of_loadDefinition loaded.loads] at same
  rw [← same, List.self_eq_append_right] at longer
  rw [IsChunk.flatten_inj each (List.forall_mem_nil _) longer] at length
  cases length

/-- Children with different names have no path in common. -/
theorem key_eq_of_path_eq {label key otherKey : String} {inner otherInner : Value}
    {child otherChild : Definition} (plain : '.' ∉ key.toList) (otherPlain : '.' ∉ otherKey.toList)
    (loaded : PlainlyLoaded files (label ++ "." ++ key) inner child)
    (otherLoaded : PlainlyLoaded files (label ++ "." ++ otherKey) otherInner otherChild)
    (first : child.node? place = some node) (second : otherChild.node? other = some twin)
    (same : node.path = twin.path) : key = otherKey := by
  obtain ⟨chunks, each, _, suffix⟩ := loaded.exists_chunks first
  obtain ⟨others, otherEach, _, otherSuffix⟩ := otherLoaded.exists_chunks second
  have joined : key.toList ++ chunks.flatten = otherKey.toList ++ others.flatten := by
    have chars := congrArg String.toList same
    rw [suffix, otherSuffix] at chars
    simpa only [String.toList_append, List.append_assoc, List.append_cancel_left_eq] using chars
  obtain ⟨keys, _⟩ := IsChunk.append_flatten_inj (not_point_of_mem plain)
    (not_point_of_mem otherPlain) each otherEach joined
  exact String.toList_inj.mp keys

theorem place_eq_of_path_eq (loaded : PlainlyLoaded files path raw definition)
    (first : definition.node? place = some node) (second : definition.node? other = some twin)
    (same : node.path = twin.path) : place = other := by
  induction place generalizing other definition path raw with
  | nil =>
      cases other with
      | nil => rfl
      | cons position other =>
          cases first
          exact absurd same (loaded.path_ne_of_below second)
  | cons position place ih =>
      cases other with
      | nil =>
          cases second
          exact absurd same.symm (loaded.path_ne_of_below first)
      | cons otherPosition other =>
          obtain ⟨child, here, behind⟩ := Definition.node?_cons_eq_some_iff.mp first
          obtain ⟨otherChild, there, otherBehind⟩ := Definition.node?_cons_eq_some_iff.mp second
          obtain ⟨members, kind, key, inner, rfl, strategy, entry, plain, below⟩ :=
            loaded.child here
          obtain ⟨_, otherKind, otherKey, _, equal, otherStrategy, otherEntry, otherPlain,
            otherBelow⟩ := loaded.child there
          cases equal
          -- the name of the child is read off the path, and only one position has it
          obtain rfl : kind = otherKind := Option.some.inj
            ((strategyOf?_eq_some_iff.mpr strategy).symm.trans
              (strategyOf?_eq_some_iff.mpr otherStrategy))
          obtain rfl := key_eq_of_path_eq plain otherPlain below otherBelow behind otherBehind same
          obtain rfl := position_eq_of_key_eq (nodup_keys_entries loaded.wellFormed kind) entry
            otherEntry
          cases here.symm.trans there
          rw [ih below behind otherBehind]

theorem distinctPaths (loaded : PlainlyLoaded files path raw definition) :
    definition.DistinctPaths :=
  fun _ _ _ _ first second same => loaded.place_eq_of_path_eq first second same

end PlainlyLoaded

/-- Where no key of a map of paths or of methods holds a point, the paths of all loaded definitions are
different, and they stay so whatever the tree serves. So each failure at the end of a context is that
of exactly one definition, and no path is in two of them. -/
theorem distinctPaths_of_loadDefinition (loads : loadDefinition files path raw = .ok definition)
    (wellFormed : raw.WellFormed)
    (plain : ∀ part, Inside part (.definition path raw) → part.KeysPlain) :
    definition.DistinctPaths ∧
      ∀ operations : List Operation,
        let tree := (definition.run operations).definition
        tree.DistinctPaths ∧
        (∀ failure ∈ tree.contextFailures, ∃ place node,
          tree.node? place = some node ∧ node.miscount? node.calls = some failure ∧
          ∀ other twin, tree.node? other = some twin →
            failure.countedPath? = some twin.path → other = place) ∧
        (tree.contextFailures.map Failure.countedPath?).Nodup := by
  have distinct : definition.DistinctPaths :=
    PlainlyLoaded.distinctPaths ⟨loads, wellFormed, plain⟩
  refine ⟨distinct, ?_⟩
  intro operations tree
  have after : tree.DistinctPaths :=
    distinct.of_reset_eq (Definition.reset_run_definition operations definition)
  exact ⟨after, fun failure member => after.exists_of_mem_contextFailures member,
    after.nodup_contextFailures⟩

/-- One of the paths has an empty name in it. The first step of the sequence is called. -/
theorem distinctPaths_of_empty_key :
    let nop : Value :=
      .object [("calls", .number (.integer 1 (by decide))), ("strategy", .string "nop")]
    let steps : Value :=
      .object [("sequence", .array [nop, nop]), ("strategy", .string "sequence")]
    let raw : Value :=
      .object [("strategy", .string "uriVary"), ("uris", .object [("", steps), ("/a", nop)])]
    let leaf (path : String) : Definition :=
      { path, constraints := [], strategy := .nop, expectedCalls := some 1 }
    let sequence : Definition :=
      { path := "$.uriVary.", constraints := [], expectedCalls := none
        strategy := .inSequence [leaf "$.uriVary..sequence.0", leaf "$.uriVary..sequence.1"] }
    let definition : Definition :=
      { path := "$", constraints := [], expectedCalls := none
        strategy := .byUri "" [("", sequence), ("/a", leaf "$.uriVary./a")] }
    let tree := (definition.run [.execute {}]).definition
    loadDefinition (.ofList []) "$" raw = .ok definition ∧ raw.WellFormed ∧
      (∀ part, Inside part (.definition "$" raw) → part.KeysPlain) ∧
      tree.contextFailures =
        [.callCount "$.uriVary..sequence.1" 1 0, .callCount "$.uriVary./a" 1 0] ∧
      tree.DistinctPaths ∧ (tree.contextFailures.map Failure.countedPath?).Nodup := by
  intro nop steps raw leaf sequence definition tree
  have loads : loadDefinition (.ofList []) "$" raw = .ok definition := by
    simp only [nop, steps, raw, leaf, sequence, definition]
    cbv
  have wellFormed : raw.WellFormed := by decide +kernel
  have plainNop (path : String) : ∀ part, Inside part (.definition path nop) → part.KeysPlain := by
    have children : (Component.definition path nop).children = [] := rfl
    have constraints : (Component.definition path nop).constraints = [] := rfl
    rw [forall_inside_iff, children, constraints]
    simp [nop, Component.KeysPlain, List.lookup]
  have plainSteps : ∀ part, Inside part (.definition "$.uriVary." steps) → part.KeysPlain := by
    have children : (Component.definition "$.uriVary." steps).children =
        [.definition "$.uriVary..sequence.0" nop, .definition "$.uriVary..sequence.1" nop] := rfl
    have constraints : (Component.definition "$.uriVary." steps).constraints = [] := rfl
    rw [forall_inside_iff, children, constraints, List.forall_mem_cons, List.forall_mem_singleton]
    exact ⟨by simp [steps, Component.KeysPlain, List.lookup], List.forall_mem_nil _,
      plainNop _, plainNop _⟩
  have plain : ∀ part, Inside part (.definition "$" raw) → part.KeysPlain := by
    have children : (Component.definition "$" raw).children =
        [.definition "$.uriVary." steps, .definition "$.uriVary./a" nop] := rfl
    have constraints : (Component.definition "$" raw).constraints = [] := rfl
    rw [forall_inside_iff, children, constraints, List.forall_mem_cons, List.forall_mem_singleton]
    refine ⟨?_, List.forall_mem_nil _, plainSteps, plainNop _⟩
    simp [raw, Component.KeysPlain, List.lookup, Keyed.keys, or_imp, forall_and]
  obtain ⟨_, after⟩ := distinctPaths_of_loadDefinition loads wellFormed plain
  obtain ⟨distinct, _, once⟩ := after [.execute {}]
  have failures : tree.contextFailures =
      [.callCount "$.uriVary..sequence.1" 1 0, .callCount "$.uriVary./a" 1 0] := by
    simp only [tree, definition, sequence, leaf]
    cbv
  exact ⟨loads, wellFormed, plain, failures, distinct, once⟩

end ApiMock.Schema
