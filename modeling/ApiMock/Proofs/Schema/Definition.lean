import ApiMock.Proofs.Schema.Constraint
import ApiMock.Proofs.Schema.Loading

/-!
# Which definitions are loaded

A definition is loaded exactly if its configuration is valid: each check succeeds for the values
that the schema allows at its key, and the definitions below are loaded exactly if theirs are valid.
-/

set_option autoImplicit false

namespace ApiMock.Schema

variable {fields : Fields}

theorem nat?_eq_some_iff {value : Value} {count : Nat} :
    value.nat? = some count ↔
      ∃ fits : Number.FitsWord count, value = .number (.integer count fits) := by
  constructor
  · intro found
    cases value with
    | number number =>
        cases number with
        | integer value fits =>
            simp only [Value.nat?, Number.toNat?, Option.ite_none_right_eq_some,
              Option.some.injEq] at found
            obtain ⟨natural, rfl⟩ := found
            obtain ⟨count, rfl⟩ := Int.eq_ofNat_of_zero_le natural
            exact ⟨fits, rfl⟩
        | double => cases found
    | _ => cases found
  · rintro ⟨fits, rfl⟩
    simp [Value.nat?, Number.toNat?]

theorem succeeds_loadConstraints_iff {path : String} {index : Nat} {items : List Value} :
    Succeeds (loadConstraints path index items) ↔ ∀ item ∈ items, ValidConstraint item := by
  induction items generalizing index with
  | nil => simp [loadConstraints]
  | cons item rest ih =>
      rw [loadConstraints, succeeds_bind_iff_and fun _ => succeeds_bind_pure_iff.trans ih,
        succeeds_loadConstraint_iff, List.forall_mem_cons]

theorem succeeds_constraintsOf_iff :
    Succeeds (constraintsOf fields) ↔
      IfGiven fields.members "requestConstraints" AreConstraints := by
  unfold constraintsOf IfGiven
  rw [← Fields.get?]
  cases fields.get? "requestConstraints" with
  | none => simp
  | some raw =>
      cases raw with
      | array items =>
          cases items with
          | nil => simp [AreConstraints]
          | cons first rest => simp [succeeds_loadConstraints_iff, AreConstraints]
      | _ => simp [AreConstraints]

theorem succeeds_callsOf_iff :
    Succeeds (callsOf fields) ↔ IfGiven fields.members "calls" IsCount := by
  unfold callsOf IfGiven
  rw [← Fields.get?]
  cases fields.get? "calls" with
  | none => simp
  | some raw =>
      simp only [Option.some.injEq, forall_eq']
      cases found : raw.nat? with
      | none =>
          simp only [Fields.not_succeeds_complain, false_iff]
          rintro ⟨count, fits, rfl, _⟩
          exact absurd (nat?_eq_some_iff.mpr ⟨fits, rfl⟩) (by simp [found])
      | some count =>
          obtain ⟨fits, rfl⟩ := nat?_eq_some_iff.mp found
          have bound : count < 0x10000000000000000 := by
            have := fits.2
            omega
          simp only [succeeds_ok, true_iff]
          exact ⟨count, fits, rfl, bound⟩

theorem isStatus_iff {value : Value} :
    IsStatus value ↔ ∃ status, value.nat?.bind Status.ofNat? = some status := by
  simp only [IsStatus, Option.bind_eq_some_iff, nat?_eq_some_iff]
  constructor
  · rintro ⟨code, fits, rfl, low, high⟩
    refine ⟨⟨code, low, by omega⟩, code, ⟨fits, rfl⟩, ?_⟩
    exact dif_pos ⟨low, by omega⟩
  · rintro ⟨status, code, ⟨fits, rfl⟩, found⟩
    unfold Status.ofNat? at found
    split at found
    · rename_i digits
      exact ⟨code, fits, rfl, digits.1, by omega⟩
    · cases found

theorem succeeds_statusOf_iff :
    Succeeds (statusOf fields) ↔ IfGiven fields.members "statusCode" IsStatus := by
  unfold statusOf IfGiven
  rw [← Fields.get?]
  cases fields.get? "statusCode" with
  | none => simp
  | some raw =>
      simp only [Option.some.injEq, forall_eq', isStatus_iff]
      cases raw.nat?.bind Status.ofNat? <;> simp

theorem exists_name?_iff {name : String} :
    (∃ lower, Headers.name? name = some lower) ↔ IsHeaderName name := by
  simp [Headers.name?, IsHeaderName]

theorem exists_value?_iff {text : String} :
    (∃ bytes, Headers.value? text = some bytes) ↔ IsHeaderValue text := by
  simp [Headers.value?, IsHeaderValue]

theorem succeeds_headerField_iff {name : String} {value : Value} :
    Succeeds (headerField fields name value) ↔
      IsHeaderName name ∧ IsTextOf IsHeaderValue value := by
  unfold headerField
  cases value with
  | string text =>
      simp only [IsTextOf, Value.string.injEq, exists_eq_left', ← exists_name?_iff,
        ← exists_value?_iff]
      cases Headers.name? name with
      | none => simp
      | some lower => cases Headers.value? text <;> simp
  | _ => simp [IsTextOf]

theorem succeeds_headerFields_iff :
    Succeeds (headerFields fields) ↔ IfGiven fields.members "headers" AreHeaders := by
  unfold headerFields IfGiven
  rw [← Fields.get?]
  cases fields.get? "headers" with
  | none => simp
  | some raw =>
      cases raw with
      | object members =>
          simp only [succeeds_mapM_iff, succeeds_headerField_iff, Option.some.injEq, forall_eq',
            AreHeaders, Value.object.injEq, exists_eq_left']
      | _ => simp [AreHeaders]

theorem succeeds_replyHead_iff : Succeeds (replyHead fields) ↔ ValidHead fields.members := by
  rw [replyHead, succeeds_bind_iff_and fun _ => succeeds_bind_pure_iff, succeeds_statusOf_iff,
    succeeds_headerFields_iff]
  exact ⟨fun both => ⟨both.1, both.2⟩, fun head => ⟨head.status, head.headers⟩⟩

theorem succeeds_constantReply_iff :
    Succeeds (constantReply fields) ↔
      Given fields.members "body" IsText ∧ ValidHead fields.members := by
  rw [constantReply, succeeds_bind_iff_and fun _ => succeeds_bind_pure_iff,
    Fields.succeeds_text_iff, succeeds_replyHead_iff]

theorem succeeds_fileReply_iff {files : Files} :
    Succeeds (fileReply files fields) ↔
      Given fields.members "filename" (IsTextOf (IsReadable files)) ∧ ValidHead fields.members := by
  rw [fileReply]
  refine Fields.succeeds_text_bind_iff fun path => ?_
  rw [← succeeds_replyHead_iff, and_comm]
  refine succeeds_bind_iff_and fun head => ?_
  unfold IsReadable
  cases files.read path <;> simp

theorem succeeds_templateReply_iff :
    Succeeds (templateReply fields) ↔
      Given fields.members "body" (IsTextOf IsTemplate) ∧ ValidHead fields.members := by
  rw [templateReply]
  refine Fields.succeeds_text_bind_iff fun body => ?_
  rw [← succeeds_replyHead_iff, and_comm]
  refine succeeds_bind_iff_and fun head => ?_
  unfold IsTemplate
  cases Template.compile body <;> simp

section

variable {files : Files} {path : String} {members : List (String × Value)}

/-- Whether the definition that a value configures is loaded depends on the value only. -/
def LoadsIfValid (files : Files) (raw : Value) : Prop :=
  ∀ path, Succeeds (loadDefinition files path raw) ↔ ValidDefinition files raw

theorem succeeds_loadNamed_iff {children : List (String × Value)}
    (each : ∀ child ∈ children, LoadsIfValid files child.2) :
    Succeeds (loadNamed files path children) ↔
      ∀ child ∈ children, ValidDefinition files child.2 := by
  induction children with
  | nil => simp [loadNamed]
  | cons child rest ih =>
      obtain ⟨name, raw⟩ := child
      obtain ⟨first, others⟩ := List.forall_mem_cons.mp each
      rw [loadNamed, succeeds_bind_iff_and fun _ => succeeds_bind_pure_iff.trans (ih others),
        first, List.forall_mem_cons]

theorem succeeds_loadNumbered_iff {index : Nat} {items : List Value}
    (each : ∀ item ∈ items, LoadsIfValid files item) :
    Succeeds (loadNumbered files path index items) ↔
      ∀ item ∈ items, ValidDefinition files item := by
  induction items generalizing index with
  | nil => simp [loadNumbered]
  | cons raw rest ih =>
      obtain ⟨first, others⟩ := List.forall_mem_cons.mp each
      rw [loadNumbered, succeeds_bind_iff_and fun _ => succeeds_bind_pure_iff.trans (ih others),
        first, List.forall_mem_cons]

theorem succeeds_named_iff {key : String} {build : List (String × Definition) → Strategy}
    (each : ∀ children, members.lookup key = some (.object children) →
      ∀ child ∈ children, LoadsIfValid files child.2) :
    Succeeds (
      match _found : members.lookup key with
      | none => (return build [] : Except Fault Strategy)
      | some (.object children) => return build (← loadNamed files path children)
      | some _ => Fields.complain ⟨path, members⟩ (.notMap key)) ↔
      IfGiven members key IsMap ∧
        ∀ children, members.lookup key = some (.object children) →
          ∀ child ∈ children, ValidDefinition files child.2 := by
  split
  case h_1 absent => simp [IfGiven, absent]
  case h_2 children found =>
    rw [succeeds_bind_pure_iff, succeeds_loadNamed_iff (each children found)]
    simp [IfGiven, IsMap, found]
  case h_3 raw noMap found =>
    have wrong : ¬ IfGiven members key IsMap := fun given => by
      obtain ⟨children, same⟩ := given raw found
      exact noMap children same
    simp [wrong]

theorem succeeds_uriVary_iff
    (each : ∀ children, members.lookup "uris" = some (.object children) →
      ∀ child ∈ children, LoadsIfValid files child.2) :
    Succeeds (loadStrategy files path .uriVary members) ↔
      IfGiven members "basePath" IsText ∧ IfGiven members "uris" IsMap ∧
        ∀ children, members.lookup "uris" = some (.object children) →
          ∀ child ∈ children, ValidDefinition files child.2 := by
  have base : Succeeds (Fields.text? ⟨path, members⟩ "basePath") ↔
      IfGiven members "basePath" IsText := Fields.succeeds_text?_iff
  rw [loadStrategy, ← base]
  exact succeeds_bind_iff_and fun _ => succeeds_named_iff each

theorem succeeds_methodVary_iff
    (each : ∀ children, members.lookup "methods" = some (.object children) →
      ∀ child ∈ children, LoadsIfValid files child.2) :
    Succeeds (loadStrategy files path .methodVary members) ↔
      IfGiven members "methods" IsMap ∧
        ∀ children, members.lookup "methods" = some (.object children) →
          ∀ child ∈ children, ValidDefinition files child.2 := by
  rw [loadStrategy]
  exact succeeds_named_iff each

theorem succeeds_sequence_iff
    (each : ∀ items, members.lookup "sequence" = some (.array items) →
      ∀ item ∈ items, LoadsIfValid files item) :
    Succeeds (loadStrategy files path .sequence members) ↔
      Given members "sequence" IsList ∧
        ∀ items, members.lookup "sequence" = some (.array items) →
          ∀ item ∈ items, ValidDefinition files item := by
  rw [loadStrategy]
  split
  case h_1 absent => simp [Given, absent]
  case h_2 items found =>
    rw [succeeds_bind_pure_iff, succeeds_loadNumbered_iff (each items found)]
    simp [Given, IsList, found]
  case h_3 raw noList found =>
    have wrong : ¬ Given members "sequence" IsList := by
      rintro ⟨_, same, items, rfl⟩
      exact noList items (Option.some.inj (found.symm.trans same))
    simp [wrong]

theorem succeeds_basedOnRequest_iff
    (each : ∀ items, members.lookup "uris" = some (.array items) →
      ∀ item ∈ items, LoadsIfValid files item) :
    Succeeds (loadStrategy files path .basedOnRequest members) ↔
      IfGiven members "uris" IsList ∧
        ∀ items, members.lookup "uris" = some (.array items) →
          ∀ item ∈ items, ValidDefinition files item := by
  rw [loadStrategy]
  split
  case h_1 absent => simp [IfGiven, absent]
  case h_2 items found =>
    rw [succeeds_bind_pure_iff, succeeds_loadNumbered_iff (each items found)]
    simp [IfGiven, IsList, found]
  case h_3 raw noList found =>
    have wrong : ¬ IfGiven members "uris" IsList := fun given => by
      obtain ⟨items, same⟩ := given raw found
      exact noList items same
    simp [wrong]

theorem succeeds_loadDefinition_object_iff :
    Succeeds (loadDefinition files path (.object members)) ↔
      ∃ kind : StrategyKind, OfStrategy kind.name kind.keys members ∧
        Succeeds (loadStrategy files (path ++ "." ++ kind.name) kind members) := by
  unfold Succeeds
  simp only [loadDefinition_object_eq_ok_iff]
  constructor
  · rintro ⟨_, kind, _, _, strategy, found, keys, listed, counted, replies, -⟩
    have keys := Fields.succeeds_checkKeys_iff.mp ⟨(), keys⟩
    have constraints := succeeds_constraintsOf_iff.mp ⟨_, listed⟩
    have calls := succeeds_callsOf_iff.mp ⟨_, counted⟩
    exact ⟨kind, ⟨found, keys, constraints, calls⟩, strategy, replies⟩
  · rintro ⟨kind, ⟨found, keys, constraints, calls⟩, strategy, replies⟩
    obtain ⟨_, keys⟩ := (@Fields.succeeds_checkKeys_iff ⟨path, members⟩ _).mpr keys
    obtain ⟨constraints, listed⟩ := (@succeeds_constraintsOf_iff ⟨path, members⟩).mpr constraints
    obtain ⟨calls, counted⟩ := (@succeeds_callsOf_iff ⟨path, members⟩).mpr calls
    exact ⟨_, kind, constraints, calls, strategy, found, keys, listed, counted, replies, rfl⟩

/-! ## All strategies -/

theorem ValidDefinition.of_loadStrategy {kind : StrategyKind}
    (named : ∀ key children, members.lookup key = some (.object children) →
      ∀ child ∈ children, LoadsIfValid files child.2)
    (numbered : ∀ key items, members.lookup key = some (.array items) →
      ∀ item ∈ items, LoadsIfValid files item)
    (ofStrategy : OfStrategy kind.name kind.keys members)
    (succeeds : Succeeds (loadStrategy files path kind members)) :
    ValidDefinition files (.object members) := by
  cases kind with
  | nop => exact .nop ofStrategy
  | dropRequest => exact .dropRequest ofStrategy
  | constant =>
      rw [loadStrategy] at succeeds
      obtain ⟨body, head⟩ := succeeds_constantReply_iff.mp succeeds
      exact .constant ofStrategy body head
  | file =>
      rw [loadStrategy] at succeeds
      obtain ⟨filename, head⟩ := succeeds_fileReply_iff.mp succeeds
      exact .file ofStrategy filename head
  | template =>
      rw [loadStrategy] at succeeds
      obtain ⟨body, head⟩ := succeeds_templateReply_iff.mp succeeds
      exact .template ofStrategy body head
  | uriVary =>
      obtain ⟨base, isMap, children⟩ := (succeeds_uriVary_iff (named "uris")).mp succeeds
      exact .uriVary ofStrategy base isMap children
  | methodVary =>
      obtain ⟨isMap, children⟩ := (succeeds_methodVary_iff (named "methods")).mp succeeds
      exact .methodVary ofStrategy isMap children
  | sequence =>
      obtain ⟨isList, items⟩ := (succeeds_sequence_iff (numbered "sequence")).mp succeeds
      exact .sequence ofStrategy isList items
  | basedOnRequest =>
      obtain ⟨isList, items⟩ := (succeeds_basedOnRequest_iff (numbered "uris")).mp succeeds
      exact .basedOnRequest ofStrategy isList items

theorem ValidDefinition.exists_loadStrategy
    (named : ∀ key children, members.lookup key = some (.object children) →
      ∀ child ∈ children, LoadsIfValid files child.2)
    (numbered : ∀ key items, members.lookup key = some (.array items) →
      ∀ item ∈ items, LoadsIfValid files item)
    (valid : ValidDefinition files (.object members)) :
    ∃ kind : StrategyKind, OfStrategy kind.name kind.keys members ∧
      ∀ path, Succeeds (loadStrategy files path kind members) := by
  cases valid with
  | nop ofStrategy => exact ⟨.nop, ofStrategy, fun _ => by rw [loadStrategy]; exact succeeds_ok⟩
  | dropRequest ofStrategy =>
      exact ⟨.dropRequest, ofStrategy, fun _ => by rw [loadStrategy]; exact succeeds_ok⟩
  | constant ofStrategy body head =>
      refine ⟨.constant, ofStrategy, fun _ => ?_⟩
      rw [loadStrategy]
      exact succeeds_constantReply_iff.mpr ⟨body, head⟩
  | file ofStrategy filename head =>
      refine ⟨.file, ofStrategy, fun _ => ?_⟩
      rw [loadStrategy]
      exact succeeds_fileReply_iff.mpr ⟨filename, head⟩
  | template ofStrategy body head =>
      refine ⟨.template, ofStrategy, fun _ => ?_⟩
      rw [loadStrategy]
      exact succeeds_templateReply_iff.mpr ⟨body, head⟩
  | uriVary ofStrategy base isMap children =>
      refine ⟨.uriVary, ofStrategy, fun _ => ?_⟩
      exact (succeeds_uriVary_iff (named "uris")).mpr ⟨base, isMap, children⟩
  | methodVary ofStrategy isMap children =>
      refine ⟨.methodVary, ofStrategy, fun _ => ?_⟩
      exact (succeeds_methodVary_iff (named "methods")).mpr ⟨isMap, children⟩
  | sequence ofStrategy isList items =>
      refine ⟨.sequence, ofStrategy, fun _ => ?_⟩
      exact (succeeds_sequence_iff (numbered "sequence")).mpr ⟨isList, items⟩
  | basedOnRequest ofStrategy isList items =>
      refine ⟨.basedOnRequest, ofStrategy, fun _ => ?_⟩
      exact (succeeds_basedOnRequest_iff (numbered "uris")).mpr ⟨isList, items⟩

end

/-- A definition is loaded exactly if its configuration is valid, whatever its path is. -/
theorem exists_loadDefinition_iff {files : Files} {path : String} {raw : Value} :
    (∃ definition, loadDefinition files path raw = .ok definition) ↔
      ValidDefinition files raw := by
  -- children are loaded at longer paths, so the induction is for all paths at once
  suffices loads : LoadsIfValid files raw from loads path
  induction raw using inductionOnChildren with
  | other raw noMap =>
      intro path
      constructor
      · intro succeeds
        rw [loadDefinition_of_not_object noMap] at succeeds
        exact absurd succeeds not_succeeds_error
      · intro valid
        cases valid <;> exact absurd rfl (noMap _)
  | object members named numbered =>
      intro path
      rw [succeeds_loadDefinition_object_iff]
      constructor
      · rintro ⟨kind, ofStrategy, succeeds⟩
        exact .of_loadStrategy named numbered ofStrategy succeeds
      · intro valid
        obtain ⟨kind, ofStrategy, succeeds⟩ := valid.exists_loadStrategy named numbered
        exact ⟨kind, ofStrategy, succeeds _⟩

-- a file by its absolute path
example :
    loadDefinition (.ofList [("/var/reply", [0xff])]) "$"
        (.object [("filename", .string "/var/reply"), ("strategy", .string "file")]) =
      .ok { path := "$", constraints := [], strategy := .constant {} [0xff], expectedCalls := none } := by
  cbv

end ApiMock.Schema
