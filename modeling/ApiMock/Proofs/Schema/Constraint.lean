import ApiMock.Proofs.Schema.Fields

/-!
# Which constraints are loaded

A constraint is loaded exactly if its configuration is valid.
-/

set_option autoImplicit false

namespace ApiMock.Schema

variable {fields : Fields} {key : String} {β : Type}

theorem succeeds_jsonDocument_iff {text : String} :
    Succeeds (jsonDocument fields text) ↔ IsJson text :=
  succeeds_mapError_iff

theorem succeeds_xmlDocument_iff {text : String} :
    Succeeds (xmlDocument fields text) ↔ IsXml text :=
  succeeds_mapError_iff

theorem succeeds_setOptions_iff {options : CompareOptions} {entries : List (String × Value)} :
    Succeeds (setOptions fields options entries) ↔
      ∀ option ∈ entries, ∃ flag, option.2 = .bool flag := by
  induction entries generalizing options with
  | nil => simp [setOptions]
  | cons entry rest ih =>
      obtain ⟨key, value⟩ := entry
      rw [setOptions, List.forall_mem_cons]
      cases value with
      | bool flag => simp [Value.bool?, ih]
      | _ => simp [Value.bool?]

theorem succeeds_compareOptions_iff :
    Succeeds (compareOptions fields) ↔ IfGiven fields.members "comparisonParams" AreOptions := by
  unfold compareOptions IfGiven
  rw [← Fields.get?]
  cases fields.get? "comparisonParams" with
  | none => simp
  | some raw =>
      cases raw with
      | object options =>
          simp only [Option.some.injEq, forall_eq', AreOptions, Value.object.injEq,
            exists_eq_left']
          rw [succeeds_bind_iff_and fun _ => succeeds_setOptions_iff, Fields.succeeds_checkKeys_iff]
          rfl
      | _ => simp [AreOptions, throw, throwThe, MonadExceptOf.throw]

/-- An empty text stands for no pattern. -/
theorem succeeds_pattern?_some_iff {source : String} :
    Succeeds (pattern? fields (some source)) ↔ source = "" ∨ IsPattern source := by
  by_cases empty : source = ""
  · simp [pattern?, empty, Option.filter]
  · simp only [pattern?, Option.filter_some, decide_not, empty, decide_false, Bool.not_false,
      if_true, false_or]
    unfold IsPattern
    cases Pattern.compile source <;> simp

theorem succeeds_text?_pattern?_iff {build : Option Pattern → β} :
    Succeeds (do
      let source ← fields.text? key
      return build (← pattern? fields source)) ↔
      IfGiven fields.members key (IsTextOf fun source => source = "" ∨ IsPattern source) := by
  rw [succeeds_bind_iff]
  simp only [succeeds_bind_pure_iff, Fields.text?_eq_ok_iff]
  rw [Fields.exists_text?_iff (by simp [pattern?])]
  simp only [succeeds_pattern?_some_iff]

theorem succeeds_nonEmptyText?_pattern?_iff {build : Option Pattern → β} :
    Succeeds (do
      let source ← fields.nonEmptyText? key
      return build (← pattern? fields source)) ↔
      IfGiven fields.members key (IsTextOf fun source => source ≠ "" ∧ IsPattern source) := by
  have filled (source : String) : some source ≠ some "" ∧ (source = "" ∨ IsPattern source) ↔
      source ≠ "" ∧ IsPattern source := by
    rw [ne_eq, Option.some.injEq]
    exact and_congr_right or_iff_right
  rw [succeeds_bind_iff]
  simp only [succeeds_bind_pure_iff, Fields.nonEmptyText?_eq_ok_iff, and_assoc]
  rw [Fields.exists_text?_iff (by simp [pattern?])]
  simp only [succeeds_pattern?_some_iff, filled]

theorem succeeds_jsonBody_iff :
    Succeeds (constraintOf fields .bodyMatchesJson) ↔
      Given fields.members "body" (IsTextOf IsJson) ∧
        IfGiven fields.members "comparisonParams" AreOptions := by
  rw [constraintOf]
  refine Fields.succeeds_text_bind_iff fun body => ?_
  rw [succeeds_bind_iff_and fun _ => succeeds_bind_pure_iff.trans succeeds_jsonDocument_iff,
    succeeds_compareOptions_iff, and_comm]

theorem succeeds_xmlBody_iff :
    Succeeds (constraintOf fields .bodyMatchesXml) ↔
      Given fields.members "body" (IsTextOf IsXml) ∧
        IfGiven fields.members "comparisonParams" AreOptions := by
  rw [constraintOf]
  refine Fields.succeeds_text_bind_iff fun body => ?_
  rw [succeeds_bind_iff_and fun _ => succeeds_bind_pure_iff.trans succeeds_xmlDocument_iff,
    succeeds_compareOptions_iff, and_comm]

theorem succeeds_fieldDocument_iff {path value : String} {options : CompareOptions} :
    Succeeds (
      match FieldPath.query? path with
      | none => fields.complain (.malformedPath path)
      | some query => do
        return Constraint.jsonFieldMatches path query (← jsonDocument fields value) options) ↔
      IsJson value ∧ IsFieldPath path := by
  unfold IsFieldPath
  cases FieldPath.query? path with
  | none => simp
  | some query =>
      rw [succeeds_bind_pure_iff, succeeds_jsonDocument_iff]
      simp

theorem succeeds_jsonField_iff :
    Succeeds (constraintOf fields .bodyJsonFieldMatchesJson) ↔
      Given fields.members "path" (IsTextOf IsFieldPath) ∧
        Given fields.members "value" (IsTextOf IsJson) ∧
        IfGiven fields.members "comparisonParams" AreOptions := by
  rw [constraintOf]
  refine Fields.succeeds_text_bind_iff fun path => ?_
  refine (Fields.succeeds_text_bind_iff fun value =>
    (succeeds_bind_iff_and fun _ => succeeds_fieldDocument_iff).trans and_left_comm).trans ?_
  rw [succeeds_compareOptions_iff, ← and_assoc, and_comm]

theorem succeeds_query_iff {build : String → Constraint} :
    Succeeds (do return build (← fields.text "expectedQuery")) ↔
      Given fields.members "expectedQuery" IsText :=
  succeeds_bind_pure_iff.trans Fields.succeeds_text_iff

theorem succeeds_methodIs_iff :
    Succeeds (constraintOf fields .methodIs) ↔
      Given fields.members "method" (IsTextOf (· ≠ "")) := by
  rw [constraintOf, succeeds_bind_pure_iff, Fields.succeeds_nonEmptyText_iff]

theorem succeeds_headerIs_iff :
    Succeeds (constraintOf fields .headerIs) ↔
      Given fields.members "header" (IsTextOf (· ≠ "")) ∧ IfGiven fields.members "value" IsText ∧
        IfGiven fields.members "regexp"
          (IsTextOf fun source => source ≠ "" ∧ IsPattern source) := by
  rw [constraintOf, ← Fields.succeeds_nonEmptyText_iff, ← Fields.succeeds_text?_iff]
  exact succeeds_bind_iff_and fun _ => succeeds_bind_iff_and fun _ =>
    succeeds_nonEmptyText?_pattern?_iff

theorem succeeds_textBody_iff :
    Succeeds (constraintOf fields .bodyMatchesText) ↔
      IfGiven fields.members "body" IsText ∧
        IfGiven fields.members "regexp"
          (IsTextOf fun source => source = "" ∨ IsPattern source) := by
  rw [constraintOf, ← Fields.succeeds_text?_iff]
  exact succeeds_bind_iff_and fun _ => succeeds_text?_pattern?_iff

theorem succeeds_path_iff :
    Succeeds (constraintOf fields .pathMatches) ↔
      IfGiven fields.members "path" IsText ∧
        IfGiven fields.members "regexp"
          (IsTextOf fun source => source ≠ "" ∧ IsPattern source) := by
  rw [constraintOf, ← Fields.succeeds_text?_iff]
  exact succeeds_bind_iff_and fun _ => succeeds_nonEmptyText?_pattern?_iff

/-- The name of a kind in configurations. -/
def ConstraintKind.name : ConstraintKind → String
  | nop => "nop"
  | methodIsGet => "methodIsGET"
  | methodIsPost => "methodIsPOST"
  | bodyMatchesJson => "bodyMatchesJSON"
  | bodyMatchesXml => "bodyMatchesXML"
  | bodyJsonFieldMatchesJson => "bodyJSONFieldMatchesJSON"
  | queryMatches => "queryMatches"
  | queryMatchesRegexp => "queryMatchesRegexp"
  | methodIs => "methodIs"
  | headerIs => "headerIs"
  | bodyMatchesText => "bodyMatchesText"
  | pathMatches => "pathMatches"

theorem ConstraintKind.ofName?_eq_some_iff {name : String} {kind : ConstraintKind} :
    ofName? name = some kind ↔ name = kind.name := by
  constructor
  · intro known
    unfold ofName? at known
    split at known <;> cases known <;> rfl
  · rintro rfl
    cases kind <;> rfl

theorem succeeds_loadConstraint_object_iff {path : String} {members : List (String × Value)} :
    Succeeds (loadConstraint path (.object members)) ↔
      ∃ kind : ConstraintKind, OfKind kind.name kind.keys members ∧
        Succeeds (constraintOf ⟨path, members⟩ kind) := by
  rw [loadConstraint, succeeds_bind_iff]
  simp only [Fields.text_eq_ok_iff, Fields.get?]
  constructor
  · rintro ⟨name, found, succeeds⟩
    split at succeeds
    · exact absurd succeeds Fields.not_succeeds_complain
    · rename_i kind known
      obtain rfl := ConstraintKind.ofName?_eq_some_iff.mp known
      rw [succeeds_bind_iff_and fun _ => Iff.rfl, Fields.succeeds_checkKeys_iff] at succeeds
      exact ⟨kind, ⟨found, succeeds.1⟩, succeeds.2⟩
  · rintro ⟨kind, ⟨found, keys⟩, succeeds⟩
    refine ⟨kind.name, found, ?_⟩
    simp only [ConstraintKind.ofName?_eq_some_iff.mpr rfl]
    rw [succeeds_bind_iff_and fun _ => Iff.rfl, Fields.succeeds_checkKeys_iff]
    exact ⟨keys, succeeds⟩

theorem ValidConstraint.of_constraintOf {path : String} {members : List (String × Value)}
    {kind : ConstraintKind} (ofKind : OfKind kind.name kind.keys members)
    (succeeds : Succeeds (constraintOf ⟨path, members⟩ kind)) :
    ValidConstraint (.object members) := by
  cases kind with
  | nop => exact .nop ofKind
  | methodIsGet => exact .methodIsGet ofKind
  | methodIsPost => exact .methodIsPost ofKind
  | bodyMatchesJson =>
      obtain ⟨body, options⟩ := succeeds_jsonBody_iff.mp succeeds
      exact .bodyMatchesJson ofKind body options
  | bodyMatchesXml =>
      obtain ⟨body, options⟩ := succeeds_xmlBody_iff.mp succeeds
      exact .bodyMatchesXml ofKind body options
  | bodyJsonFieldMatchesJson =>
      obtain ⟨path, value, options⟩ := succeeds_jsonField_iff.mp succeeds
      exact .bodyJsonFieldMatchesJson ofKind path value options
  | queryMatches => exact .queryMatches ofKind (succeeds_query_iff.mp succeeds)
  | queryMatchesRegexp => exact .queryMatchesRegexp ofKind (succeeds_query_iff.mp succeeds)
  | methodIs => exact .methodIs ofKind (succeeds_methodIs_iff.mp succeeds)
  | headerIs =>
      obtain ⟨header, value, pattern⟩ := succeeds_headerIs_iff.mp succeeds
      exact .headerIs ofKind header value pattern
  | bodyMatchesText =>
      obtain ⟨body, pattern⟩ := succeeds_textBody_iff.mp succeeds
      exact .bodyMatchesText ofKind body pattern
  | pathMatches =>
      obtain ⟨path, pattern⟩ := succeeds_path_iff.mp succeeds
      exact .pathMatches ofKind path pattern

theorem ValidConstraint.exists_constraintOf {members : List (String × Value)}
    (valid : ValidConstraint (.object members)) :
    ∃ kind : ConstraintKind, OfKind kind.name kind.keys members ∧
      ∀ path, Succeeds (constraintOf ⟨path, members⟩ kind) := by
  cases valid with
  | nop ofKind => exact ⟨.nop, ofKind, fun _ => succeeds_ok⟩
  | methodIsGet ofKind => exact ⟨.methodIsGet, ofKind, fun _ => succeeds_ok⟩
  | methodIsPost ofKind => exact ⟨.methodIsPost, ofKind, fun _ => succeeds_ok⟩
  | bodyMatchesJson ofKind body options =>
      exact ⟨.bodyMatchesJson, ofKind, fun _ => succeeds_jsonBody_iff.mpr ⟨body, options⟩⟩
  | bodyMatchesXml ofKind body options =>
      exact ⟨.bodyMatchesXml, ofKind, fun _ => succeeds_xmlBody_iff.mpr ⟨body, options⟩⟩
  | bodyJsonFieldMatchesJson ofKind path value options =>
      refine ⟨.bodyJsonFieldMatchesJson, ofKind, fun _ => ?_⟩
      exact succeeds_jsonField_iff.mpr ⟨path, value, options⟩
  | queryMatches ofKind query =>
      exact ⟨.queryMatches, ofKind, fun _ => succeeds_query_iff.mpr query⟩
  | queryMatchesRegexp ofKind query =>
      exact ⟨.queryMatchesRegexp, ofKind, fun _ => succeeds_query_iff.mpr query⟩
  | methodIs ofKind method =>
      exact ⟨.methodIs, ofKind, fun _ => succeeds_methodIs_iff.mpr method⟩
  | headerIs ofKind header value pattern =>
      exact ⟨.headerIs, ofKind, fun _ => succeeds_headerIs_iff.mpr ⟨header, value, pattern⟩⟩
  | bodyMatchesText ofKind body pattern =>
      exact ⟨.bodyMatchesText, ofKind, fun _ => succeeds_textBody_iff.mpr ⟨body, pattern⟩⟩
  | pathMatches ofKind path pattern =>
      exact ⟨.pathMatches, ofKind, fun _ => succeeds_path_iff.mpr ⟨path, pattern⟩⟩

theorem succeeds_loadConstraint_iff {path : String} {raw : Value} :
    Succeeds (loadConstraint path raw) ↔ ValidConstraint raw := by
  constructor
  · intro succeeds
    cases raw with
    | object members =>
        obtain ⟨kind, ofKind, succeeds⟩ := succeeds_loadConstraint_object_iff.mp succeeds
        exact .of_constraintOf ofKind succeeds
    | _ => exact absurd succeeds not_succeeds_error
  · intro valid
    obtain ⟨members, rfl⟩ : ∃ members, raw = .object members := by
      cases valid <;> exact ⟨_, rfl⟩
    obtain ⟨kind, ofKind, succeeds⟩ := valid.exists_constraintOf
    exact succeeds_loadConstraint_object_iff.mpr ⟨kind, ofKind, succeeds path⟩

end ApiMock.Schema
