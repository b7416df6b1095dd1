import ApiMock.Proofs.Schema.Outcome
import ApiMock.Schema.Definition

/-!
# Stages of loading

A strategy checks its own keys first and loads its children afterwards, and constraints are loaded one
after the other once there is a list of them. Lists are loaded as maps are, with positions for names,
so there is one equation for all strategies.
-/

set_option autoImplicit false

namespace ApiMock.Schema

variable {files : Files} {path : String} {members : List (String × Value)}

/-! ## Children in configurations -/

def namedEntries (key : String) (members : List (String × Value)) : List (String × Value) :=
  match members.lookup key with
  | some (.object children) => children
  | _ => []

/-- Items from an index on, with their positions for names. -/
def numberedFrom {α : Type} (index : Nat) (items : List α) : List (String × α) :=
  (items.zipIdx index).map fun (item, position) => (toString position, item)

theorem numberedFrom_cons {α : Type} (index : Nat) (item : α) (items : List α) :
    numberedFrom index (item :: items) = (toString index, item) :: numberedFrom (index + 1) items :=
  rfl

theorem mem_numberedFrom {α : Type} {index : Nat} {items : List α} {entry : String × α}
    (member : entry ∈ numberedFrom index items) :
    (∃ position : Nat, entry.1 = toString position) ∧ entry.2 ∈ items := by
  obtain ⟨⟨item, position⟩, inside, rfl⟩ := List.mem_map.mp member
  exact ⟨⟨position, rfl⟩, List.fst_mem_of_mem_zipIdx inside⟩

def numberedEntries (key : String) (members : List (String × Value)) : List (String × Value) :=
  match members.lookup key with
  | some (.array items) => numberedFrom 0 items
  | _ => []

/-- The configurations of the children of a strategy, with their names. -/
def StrategyKind.entries (kind : StrategyKind) (members : List (String × Value)) :
    List (String × Value) :=
  match kind with
  | uriVary => namedEntries "uris" members
  | methodVary => namedEntries "methods" members
  | sequence => numberedEntries "sequence" members
  | basedOnRequest => numberedEntries "uris" members
  | nop | dropRequest | file | constant | template => []

/-- Children stand in a map of paths or of methods, or in a list. -/
theorem entries_cases (kind : StrategyKind) (members : List (String × Value)) :
    kind.entries members = [] ∨
    (∃ key children, key ∈ ["uris", "methods"] ∧
      members.lookup key = some (.object children) ∧ kind.entries members = children) ∨
    ∃ key items, members.lookup key = some (.array items) ∧
      kind.entries members = numberedFrom 0 items := by
  have named (key : String) : namedEntries key members = [] ∨ ∃ children,
      members.lookup key = some (.object children) ∧ namedEntries key members = children := by
    unfold namedEntries
    split
    · rename_i children found
      exact .inr ⟨children, found, rfl⟩
    · exact .inl rfl
  have numbered (key : String) : numberedEntries key members = [] ∨ ∃ items,
      members.lookup key = some (.array items) ∧
        numberedEntries key members = numberedFrom 0 items := by
    unfold numberedEntries
    split
    · rename_i items found
      exact .inr ⟨items, found, rfl⟩
    · exact .inl rfl
  cases kind with
  | uriVary =>
      exact (named "uris").imp_right fun ⟨children, found⟩ =>
        .inl ⟨_, children, .head _, found⟩
  | methodVary =>
      exact (named "methods").imp_right fun ⟨children, found⟩ =>
        .inl ⟨_, children, .tail _ (.head _), found⟩
  | sequence => exact (numbered "sequence").imp_right fun found => .inr ⟨_, found⟩
  | basedOnRequest => exact (numbered "uris").imp_right fun found => .inr ⟨_, found⟩
  | _ => exact .inl rfl

/-- The configurations of constraints, with their positions for names. -/
def constraintEntries (members : List (String × Value)) : List (String × Value) :=
  numberedEntries "requestConstraints" members

/-! ## Own keys -/

def Fields.checkConstraints (fields : Fields) : Except Fault Unit :=
  match fields.get? "requestConstraints" with
  | none | some (.array (_ :: _)) => .ok ()
  | some _ => fields.complain .constraintsNotList

def Fields.checkMap (fields : Fields) (key : String) : Except Fault Unit :=
  match fields.get? key with
  | none | some (.object _) => .ok ()
  | some _ => fields.complain (.notMap key)

def Fields.checkSteps (fields : Fields) : Except Fault Unit :=
  match fields.get? "sequence" with
  | none => fields.complain .sequenceMissing
  | some (.array _) => .ok ()
  | some _ => fields.complain .sequenceNotList

def Fields.checkVariants (fields : Fields) : Except Fault Unit :=
  match fields.get? "uris" with
  | none | some (.array _) => .ok ()
  | some _ => fields.complain .variantsNotList

/-- The checks of a strategy's own keys, and how the strategy is made from its children. -/
def StrategyKind.frame (files : Files) (fields : Fields) (kind : StrategyKind) :
    Except Fault (List (String × Definition) → Strategy) :=
  match kind with
  | nop => return fun _ => .nop
  | dropRequest => return fun _ => .dropRequest
  | constant => do
    let reply ← constantReply fields
    return fun _ => reply
  | file => do
    let reply ← fileReply files fields
    return fun _ => reply
  | template => do
    let reply ← templateReply fields
    return fun _ => reply
  | uriVary => do
    let base ← fields.text? "basePath"
    fields.checkMap "uris"
    return .byUri (base.getD "")
  | methodVary => do
    fields.checkMap "methods"
    return .byMethod
  | sequence => do
    fields.checkSteps
    return .dispatch (.sequence 0)
  | basedOnRequest => do
    fields.checkVariants
    return .dispatch .request

/-! ## One equation -/

theorem loadNumbered_bind_numberedFrom (index : Nat) (items : List Value) :
    (loadNumbered files path index items >>= fun loaded => pure (numberedFrom index loaded)) =
      loadNamed files path (numberedFrom index items) := by
  induction items generalizing index with
  | nil =>
      rw [loadNumbered, show numberedFrom index ([] : List Value) = [] from rfl, loadNamed]
      rfl
  | cons raw rest ih =>
      rw [loadNumbered, numberedFrom_cons, loadNamed, ← ih]
      simp only [bind_assoc, pure_bind, numberedFrom_cons]

theorem loadNamed_nil : loadNamed files path [] = .ok [] := by
  rw [loadNamed]

theorem bind_loadNamed_nil (checks : Except Fault (List (String × Definition) → Strategy)) :
    (do
      let assemble ← checks
      return assemble (← loadNamed files path [])) = checks.map fun assemble => assemble [] := by
  rw [loadNamed_nil]
  cases checks <;> rfl

theorem load_named_eq (key : String) (build : List (String × Definition) → Strategy) :
    (match _found : members.lookup key with
      | none => (return build [] : Except Fault Strategy)
      | some (.object children) => return build (← loadNamed files path children)
      | some _ => Fields.complain ⟨path, members⟩ (.notMap key)) = do
        Fields.checkMap ⟨path, members⟩ key
        return build (← loadNamed files path (namedEntries key members)) := by
  unfold Fields.checkMap namedEntries Fields.get?
  split
  case h_1 absent =>
    rw [absent, loadNamed_nil]
    rfl
  case h_2 children found =>
    rw [found]
    rfl
  case h_3 raw noMap found =>
    rw [found]
    cases raw with
    | object children => exact absurd rfl (noMap children)
    | _ => rfl

theorem load_numbered_eq (dispatcher : Dispatcher) (items : List Value) :
    (do return .dispatch dispatcher (Strategy.numbered (← loadNumbered files path 0 items))) =
      (do return .dispatch dispatcher (← loadNamed files path (numberedFrom 0 items)) :
        Except Fault Strategy) := by
  rw [← loadNumbered_bind_numberedFrom, bind_assoc]
  rfl

/-- A strategy checks its own keys before it loads its children. -/
theorem loadStrategy_eq (kind : StrategyKind) :
    loadStrategy files path kind members = do
      let assemble ← kind.frame files ⟨path, members⟩
      return assemble (← loadNamed files path (kind.entries members)) := by
  cases kind with
  | nop | dropRequest =>
      rw [StrategyKind.entries, bind_loadNamed_nil, loadStrategy]
      rfl
  | constant =>
      rw [StrategyKind.entries, bind_loadNamed_nil, loadStrategy, StrategyKind.frame]
      cases constantReply ⟨path, members⟩ <;> rfl
  | file =>
      rw [StrategyKind.entries, bind_loadNamed_nil, loadStrategy, StrategyKind.frame]
      cases fileReply files ⟨path, members⟩ <;> rfl
  | template =>
      rw [StrategyKind.entries, bind_loadNamed_nil, loadStrategy, StrategyKind.frame]
      cases templateReply ⟨path, members⟩ <;> rfl
  | uriVary =>
      rw [loadStrategy, StrategyKind.frame, StrategyKind.entries, bind_assoc]
      refine bind_congr fun base => ?_
      rw [bind_assoc]
      exact load_named_eq "uris" _
  | methodVary =>
      rw [loadStrategy, StrategyKind.frame, StrategyKind.entries, bind_assoc]
      exact load_named_eq "methods" _
  | sequence =>
      rw [loadStrategy, StrategyKind.frame, StrategyKind.entries, bind_assoc]
      unfold Fields.checkSteps numberedEntries Fields.get?
      split
      case h_1 absent => rw [absent]; rfl
      case h_2 items found => rw [found]; exact load_numbered_eq _ items
      case h_3 raw noList found =>
        rw [found]
        cases raw with
        | array items => exact absurd rfl (noList items)
        | _ => rfl
  | basedOnRequest =>
      rw [loadStrategy, StrategyKind.frame, StrategyKind.entries, bind_assoc]
      unfold Fields.checkVariants numberedEntries Fields.get?
      split
      case h_1 absent => rw [absent, loadNamed_nil]; rfl
      case h_2 items found => rw [found]; exact load_numbered_eq _ items
      case h_3 raw noList found =>
        rw [found]
        cases raw with
        | array items => exact absurd rfl (noList items)
        | _ => rfl

/-! ## Lists of children and of constraints -/

theorem loadNamed_eq_mapM (children : List (String × Value)) :
    loadNamed files path children = children.mapM fun child => do
      return (child.1, ← loadDefinition files (path ++ "." ++ child.1) child.2) := by
  induction children with
  | nil => exact loadNamed_nil
  | cons child rest ih =>
      rw [loadNamed, ih, List.mapM_cons, bind_assoc]
      simp only [pure_bind]

theorem loadNamed_eq_ok_iff {children : List (String × Value)}
    {loaded : List (String × Definition)} :
    loadNamed files path children = .ok loaded ↔
      List.Forall₂ (fun child definition => child.1 = definition.1 ∧
        loadDefinition files (path ++ "." ++ child.1) child.2 = .ok definition.2)
        children loaded := by
  rw [loadNamed_eq_mapM, mapM_eq_ok_iff]
  refine iff_of_eq (congrArg (List.Forall₂ · children loaded) ?_)
  funext child definition
  simp only [bind_eq_ok_iff, pure_eq_ok_iff, Prod.ext_iff, eq_iff_iff]
  constructor
  · rintro ⟨_, here, same, rfl⟩
    exact ⟨same, here⟩
  · rintro ⟨same, here⟩
    exact ⟨definition.2, here, same, rfl⟩

theorem exists_getElem?_of_loadNamed {children : List (String × Value)}
    {loaded : List (String × Definition)} (succeeds : loadNamed files path children = .ok loaded)
    {position : Nat} {key : String} {child : Definition}
    (found : loaded[position]? = some (key, child)) :
    ∃ raw, children[position]? = some (key, raw) ∧
      loadDefinition files (path ++ "." ++ key) raw = .ok child := by
  rw [loadNamed_eq_ok_iff] at succeeds
  induction succeeds generalizing position with
  | nil => cases found
  | @cons entry _ _ _ here _ ih =>
      cases position with
      | zero =>
          cases found
          obtain ⟨name, raw⟩ := entry
          obtain ⟨rfl, loads⟩ := here
          exact ⟨raw, rfl, loads⟩
      | succ position => exact ih found

theorem loadConstraints_eq_mapM (index : Nat) (items : List Value) :
    loadConstraints path index items = (numberedFrom index items).mapM fun item =>
      loadConstraint (path ++ ".requestConstraints[" ++ item.1 ++ "]") item.2 := by
  induction items generalizing index with
  | nil => rfl
  | cons raw rest ih => rw [loadConstraints, numberedFrom_cons, List.mapM_cons, ih]

theorem constraintsOf_eq :
    constraintsOf ⟨path, members⟩ =
      (do
        Fields.checkConstraints ⟨path, members⟩
        (constraintEntries members).mapM fun entry =>
          loadConstraint (path ++ ".requestConstraints[" ++ entry.1 ++ "]") entry.2) := by
  unfold constraintsOf Fields.checkConstraints constraintEntries numberedEntries Fields.get?
  cases members.lookup "requestConstraints" with
  | none => rfl
  | some raw =>
      cases raw with
      | array items =>
          cases items with
          | nil => rfl
          | cons first rest => exact loadConstraints_eq_mapM 0 (first :: rest)
      | _ => rfl

end ApiMock.Schema
