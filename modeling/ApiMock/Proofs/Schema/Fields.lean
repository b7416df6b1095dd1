import ApiMock.Proofs.Schema.Outcome
import ApiMock.Proofs.Schema.Valid
import Mathlib.Logic.Basic

/-!
# Checks of keys

Which values of a key are accepted where its text is asked for, and which keys a map may have.
-/

set_option autoImplicit false

namespace ApiMock.Schema.Fields

variable {fields : Fields} {key : String} {α : Type}

@[simp] theorem not_succeeds_complain {complaint : Complaint} :
    ¬ Succeeds (fields.complain complaint : Except Fault α) := nofun

theorem text?_eq_ok_iff {found : Option String} :
    fields.text? key = .ok found ↔ fields.get? key = found.map Value.string := by
  unfold text?
  cases fields.get? key with
  | none => cases found <;> simp
  | some value => cases value <;> cases found <;> simp [complain]

theorem text_eq_ok_iff {text : String} :
    fields.text key = .ok text ↔ fields.get? key = some (.string text) := by
  simp only [Fields.text, bind_eq_ok_iff, text?_eq_ok_iff]
  constructor
  · rintro ⟨found, here, same⟩
    cases found with
    | none => cases same
    | some text => cases same; exact here
  · exact fun here => ⟨some text, here, rfl⟩

theorem nonEmptyText?_eq_ok_iff {found : Option String} :
    fields.nonEmptyText? key = .ok found ↔
      fields.get? key = found.map Value.string ∧ found ≠ some "" := by
  simp only [nonEmptyText?, bind_eq_ok_iff, text?_eq_ok_iff]
  constructor
  · rintro ⟨text, here, same⟩
    split at same
    · cases same
    · cases same
      exact ⟨here, by assumption⟩
  · rintro ⟨here, filled⟩
    refine ⟨found, here, ?_⟩
    split
    · exact absurd rfl filled
    · rfl

theorem nonEmptyText_eq_ok_iff {text : String} :
    fields.nonEmptyText key = .ok text ↔ fields.get? key = some (.string text) ∧ text ≠ "" := by
  simp only [nonEmptyText, bind_eq_ok_iff, nonEmptyText?_eq_ok_iff]
  constructor
  · rintro ⟨found, ⟨here, filled⟩, same⟩
    cases found with
    | none => cases same
    | some text => cases same; exact ⟨here, fun empty => filled (congrArg some empty)⟩
  · rintro ⟨here, filled⟩
    exact ⟨some text, ⟨here, fun empty => filled (Option.some.inj empty)⟩, rfl⟩

/-- What is asked of a text that is read if it is there. -/
theorem exists_text?_iff {property : Option String → Prop} (absent : property none) :
    (∃ found : Option String, fields.get? key = found.map Value.string ∧ property found) ↔
      IfGiven fields.members key (IsTextOf fun text => property (some text)) := by
  unfold IfGiven
  rw [← Fields.get?]
  constructor
  · rintro ⟨found, here, holds⟩ value given
    cases found with
    | none => cases here.symm.trans given
    | some text => exact ⟨text, Option.some.inj (given.symm.trans here), holds⟩
  · intro valid
    cases given : fields.get? key with
    | none => exact ⟨none, rfl, absent⟩
    | some value =>
        obtain ⟨text, rfl, holds⟩ := valid value given
        exact ⟨some text, rfl, holds⟩

theorem exists_text_iff {property : String → Prop} :
    (∃ text, fields.get? key = some (.string text) ∧ property text) ↔
      Given fields.members key (IsTextOf property) := by
  constructor
  · rintro ⟨text, here, holds⟩
    exact ⟨_, here, text, rfl, holds⟩
  · rintro ⟨_, here, text, rfl, holds⟩
    exact ⟨text, here, holds⟩

theorem succeeds_text?_iff : Succeeds (fields.text? key) ↔ IfGiven fields.members key IsText := by
  have given := @exists_text?_iff fields key (fun _ => True) trivial
  simpa [Succeeds, text?_eq_ok_iff, IsText] using given

theorem succeeds_text_bind_iff {next : String → Except Fault α} {property : String → Prop}
    {condition : Prop} (each : ∀ text, Succeeds (next text) ↔ property text ∧ condition) :
    Succeeds (fields.text key >>= next) ↔
      Given fields.members key (IsTextOf property) ∧ condition := by
  simp only [succeeds_bind_iff, text_eq_ok_iff, each, ← exists_text_iff]
  constructor
  · rintro ⟨text, here, holds, condition⟩
    exact ⟨⟨text, here, holds⟩, condition⟩
  · rintro ⟨⟨text, here, holds⟩, condition⟩
    exact ⟨text, here, holds, condition⟩

theorem succeeds_text_iff : Succeeds (fields.text key) ↔ Given fields.members key IsText := by
  have given := @exists_text_iff fields key fun _ => True
  simpa [Succeeds, text_eq_ok_iff, IsText] using given

theorem succeeds_nonEmptyText_iff :
    Succeeds (fields.nonEmptyText key) ↔ Given fields.members key (IsTextOf (· ≠ "")) := by
  simp only [Succeeds, nonEmptyText_eq_ok_iff]
  exact exists_text_iff

theorem succeeds_checkKeys_iff {allowed : List String} :
    Succeeds (fields.checkKeys allowed) ↔ KeysAmong fields.members allowed := by
  unfold checkKeys KeysAmong
  cases found : (Keyed.keys fields.members).find? fun key => !allowed.contains key with
  | none =>
      simp only [succeeds_ok, true_iff]
      simpa using found
  | some key =>
      simp only [not_succeeds_complain, false_iff, not_forall]
      refine ⟨key, List.mem_of_find?_eq_some found, ?_⟩
      simpa using List.find?_some found

end ApiMock.Schema.Fields
