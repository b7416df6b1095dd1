import ApiMock.Proofs.Schema.Stages

/-!
# Where faults are

The paths of the faults that a check can have. A check of keys complains about the map that has them,
the options of a comparison have a path of their own, and checks that are made one after the other have
the faults of each of them.
-/

set_option autoImplicit false

namespace ApiMock.Schema

section

variable {α β : Type} {place : String → Prop} {outcome : Except Fault α}

/-- Every fault of a check is at a place. -/
def FaultsAt (place : String → Prop) (outcome : Except Fault α) : Prop :=
  ∀ fault, outcome = .error fault → place fault.path

theorem FaultsAt.path_eq {path : String} {fault : Fault} (own : FaultsAt (path = ·) outcome)
    (fails : outcome = .error fault) : fault.path = path :=
  (own fault fails).symm

theorem FaultsAt.ok {value : α} : FaultsAt place (.ok value) := nofun

theorem FaultsAt.pure {value : α} : FaultsAt place (pure value) := nofun

theorem FaultsAt.error {fault : Fault} (here : place fault.path) :
    FaultsAt place (.error fault : Except Fault α) := by
  intro other same
  cases same
  exact here

theorem FaultsAt.bind {next : α → Except Fault β} (first : FaultsAt place outcome)
    (rest : ∀ value, FaultsAt place (next value)) : FaultsAt place (outcome >>= next) := by
  cases outcome with
  | ok value => exact rest value
  | error fault => exact .error (first fault rfl)

theorem FaultsAt.bind_pure {build : α → β} (first : FaultsAt place outcome) :
    FaultsAt place (outcome >>= fun value => Pure.pure (build value)) :=
  first.bind fun _ => .pure

theorem FaultsAt.mapM {check : α → Except Fault β} {items : List α}
    (each : ∀ item, FaultsAt place (check item)) : FaultsAt place (items.mapM check) := by
  induction items with
  | nil => exact .pure
  | cons item rest ih =>
      rw [List.mapM_cons]
      exact (each item).bind fun _ => ih.bind_pure

theorem FaultsAt.mapError {ε : Type} {result : Except ε α} {f : ε → Fault}
    (here : ∀ fault, place (f fault).path) : FaultsAt place (result.mapError f) := by
  cases result with
  | ok value => exact .ok
  | error fault => exact .error (here fault)

end

variable {place : String → Prop} {fields : Fields} {key : String}

/-! ## Checks of keys -/

namespace Fields

variable (here : place fields.path)

include here

theorem faultsAt_complain {α : Type} {complaint : Complaint} :
    FaultsAt place (fields.complain complaint : Except Fault α) :=
  .error here

theorem faultsAt_checkKeys {allowed : List String} : FaultsAt place (fields.checkKeys allowed) := by
  unfold checkKeys
  split
  · exact faultsAt_complain here
  · exact .ok

theorem faultsAt_text? : FaultsAt place (fields.text? key) := by
  unfold text?
  split
  · exact .ok
  · exact .ok
  · exact faultsAt_complain here

theorem faultsAt_nonEmptyText? : FaultsAt place (fields.nonEmptyText? key) := by
  refine (faultsAt_text? here).bind fun text => ?_
  split
  · exact faultsAt_complain here
  · exact .pure

theorem faultsAt_text : FaultsAt place (fields.text key) := by
  refine (faultsAt_text? here).bind fun text => ?_
  split
  · exact .pure
  · exact faultsAt_complain here

theorem faultsAt_nonEmptyText : FaultsAt place (fields.nonEmptyText key) := by
  refine (faultsAt_nonEmptyText? here).bind fun text => ?_
  split
  · exact .pure
  · exact faultsAt_complain here

end Fields

/-! ## Replies -/

section

variable (here : place fields.path)

include here

theorem faultsAt_statusOf : FaultsAt place (statusOf fields) := by
  unfold statusOf
  split
  · exact .ok
  · split
    · exact .ok
    · exact Fields.faultsAt_complain here

theorem faultsAt_headerField {name : String} {value : Value} :
    FaultsAt place (headerField fields name value) := by
  unfold headerField
  split
  · split
    · exact Fields.faultsAt_complain here
    · split
      · exact Fields.faultsAt_complain here
      · exact .ok
  · exact Fields.faultsAt_complain here

theorem faultsAt_headerFields : FaultsAt place (headerFields fields) := by
  unfold headerFields
  split
  · exact .ok
  · exact .mapM fun _ => faultsAt_headerField here
  · exact Fields.faultsAt_complain here

theorem faultsAt_replyHead : FaultsAt place (replyHead fields) :=
  (faultsAt_statusOf here).bind fun _ => (faultsAt_headerFields here).bind_pure

theorem faultsAt_constantReply : FaultsAt place (constantReply fields) :=
  (Fields.faultsAt_text here).bind fun _ => (faultsAt_replyHead here).bind_pure

theorem faultsAt_fileReply {files : Files} : FaultsAt place (fileReply files fields) := by
  refine (Fields.faultsAt_text here).bind fun path => (faultsAt_replyHead here).bind fun head => ?_
  split
  · exact .pure
  · exact Fields.faultsAt_complain here

theorem faultsAt_templateReply : FaultsAt place (templateReply fields) := by
  refine (Fields.faultsAt_text here).bind fun body => (faultsAt_replyHead here).bind fun head => ?_
  split
  · exact .pure
  · exact Fields.faultsAt_complain here

/-! ## Constraints -/

theorem faultsAt_jsonDocument {text : String} : FaultsAt place (jsonDocument fields text) :=
  .mapError fun _ => here

theorem faultsAt_xmlDocument {text : String} : FaultsAt place (xmlDocument fields text) :=
  .mapError fun _ => here

theorem faultsAt_pattern? {source : Option String} : FaultsAt place (pattern? fields source) := by
  unfold pattern?
  split
  · exact .ok
  · split
    · exact .ok
    · exact Fields.faultsAt_complain here

theorem faultsAt_setOptions {options : CompareOptions} {entries : List (String × Value)} :
    FaultsAt place (setOptions fields options entries) := by
  induction entries generalizing options with
  | nil => exact .ok
  | cons entry rest ih =>
      obtain ⟨key, value⟩ := entry
      rw [setOptions]
      split
      · exact ih
      · exact Fields.faultsAt_complain here

omit here in
/-- The options of a comparison are a map of their own, with a path of its own. -/
theorem faultsAt_compareOptions (inside : place (fields.path ++ ".comparisonParams")) :
    FaultsAt place (compareOptions fields) := by
  unfold compareOptions
  split
  · exact .ok
  · dsimp only
    split
    · exact (Fields.faultsAt_checkKeys inside).bind fun _ => faultsAt_setOptions inside
    · exact .error inside

theorem faultsAt_constraintOf (inside : place (fields.path ++ ".comparisonParams"))
    {kind : ConstraintKind} : FaultsAt place (constraintOf fields kind) := by
  cases kind with
  | nop => exact .ok
  | methodIsGet => exact .ok
  | methodIsPost => exact .ok
  | bodyMatchesJson =>
      exact (Fields.faultsAt_text here).bind fun _ =>
        (faultsAt_compareOptions inside).bind fun _ => (faultsAt_jsonDocument here).bind_pure
  | bodyMatchesXml =>
      exact (Fields.faultsAt_text here).bind fun _ =>
        (faultsAt_compareOptions inside).bind fun _ => (faultsAt_xmlDocument here).bind_pure
  | bodyJsonFieldMatchesJson =>
      refine (Fields.faultsAt_text here).bind fun path => (Fields.faultsAt_text here).bind fun _ =>
        (faultsAt_compareOptions inside).bind fun _ => ?_
      split
      · exact Fields.faultsAt_complain here
      · exact (faultsAt_jsonDocument here).bind_pure
  | queryMatches => exact (Fields.faultsAt_text here).bind_pure
  | queryMatchesRegexp => exact (Fields.faultsAt_text here).bind_pure
  | methodIs => exact (Fields.faultsAt_nonEmptyText here).bind_pure
  | headerIs =>
      exact (Fields.faultsAt_nonEmptyText here).bind fun _ => (Fields.faultsAt_text? here).bind
        fun _ => (Fields.faultsAt_nonEmptyText? here).bind fun _ =>
          (faultsAt_pattern? here).bind_pure
  | bodyMatchesText =>
      exact (Fields.faultsAt_text? here).bind fun _ => (Fields.faultsAt_text? here).bind fun _ =>
        (faultsAt_pattern? here).bind_pure
  | pathMatches =>
      exact (Fields.faultsAt_text? here).bind fun _ => (Fields.faultsAt_nonEmptyText? here).bind
        fun _ => (faultsAt_pattern? here).bind_pure

end

/-- A constraint complains about itself or about its options. -/
theorem faultsAt_loadConstraint {path : String} {raw : Value} :
    FaultsAt (fun found => found = path ∨ found = path ++ ".comparisonParams")
      (loadConstraint path raw) := by
  cases raw with
  | object members =>
      rw [loadConstraint]
      refine (Fields.faultsAt_text (.inl rfl)).bind fun name => ?_
      split
      · exact Fields.faultsAt_complain (.inl rfl)
      · exact (Fields.faultsAt_checkKeys (.inl rfl)).bind fun _ =>
          faultsAt_constraintOf (.inl rfl) (.inr rfl)
  | _ => exact .error (.inl rfl)

/-! ## Definitions -/

section

variable (here : place fields.path)

include here

theorem faultsAt_checkConstraints : FaultsAt place fields.checkConstraints := by
  unfold Fields.checkConstraints
  split
  · exact .ok
  · exact .ok
  · exact Fields.faultsAt_complain here

theorem faultsAt_callsOf : FaultsAt place (callsOf fields) := by
  unfold callsOf
  split
  · exact .ok
  · split
    · exact .ok
    · exact Fields.faultsAt_complain here

theorem faultsAt_checkMap : FaultsAt place (fields.checkMap key) := by
  unfold Fields.checkMap
  split
  · exact .ok
  · exact .ok
  · exact Fields.faultsAt_complain here

theorem faultsAt_checkSteps : FaultsAt place fields.checkSteps := by
  unfold Fields.checkSteps
  split
  · exact Fields.faultsAt_complain here
  · exact .ok
  · exact Fields.faultsAt_complain here

theorem faultsAt_checkVariants : FaultsAt place fields.checkVariants := by
  unfold Fields.checkVariants
  split
  · exact .ok
  · exact .ok
  · exact Fields.faultsAt_complain here

/-- A strategy complains about itself before it loads its children. -/
theorem faultsAt_frame {files : Files} {kind : StrategyKind} :
    FaultsAt place (kind.frame files fields) := by
  cases kind with
  | nop => exact .pure
  | dropRequest => exact .pure
  | constant => exact (faultsAt_constantReply here).bind_pure
  | file => exact (faultsAt_fileReply here).bind_pure
  | template => exact (faultsAt_templateReply here).bind_pure
  | uriVary =>
      exact (Fields.faultsAt_text? here).bind fun _ => (faultsAt_checkMap here).bind_pure
  | methodVary => exact (faultsAt_checkMap here).bind_pure
  | sequence => exact (faultsAt_checkSteps here).bind_pure
  | basedOnRequest => exact (faultsAt_checkVariants here).bind_pure

end

end ApiMock.Schema
