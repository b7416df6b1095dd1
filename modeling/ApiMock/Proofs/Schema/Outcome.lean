import Mathlib.Data.List.Forall2

/-!
# Outcomes of checks

A check gives a value or a complaint. Checks that are made one after the other succeed exactly if
each of them does, and otherwise fail as the first one that fails.
-/

set_option autoImplicit false

namespace ApiMock.Schema

section

variable {ε δ α β : Type} {outcome : Except ε α} {value : α}

theorem bind_eq_ok_iff {next : α → Except ε β} {result : β} :
    outcome >>= next = .ok result ↔ ∃ value, outcome = .ok value ∧ next value = .ok result := by
  cases outcome <;> simp [bind, Except.bind]

theorem bind_eq_error_iff {next : α → Except ε β} {fault : ε} :
    outcome >>= next = .error fault ↔
      outcome = .error fault ∨ ∃ value, outcome = .ok value ∧ next value = .error fault := by
  cases outcome <;> simp [bind, Except.bind]

theorem bind_pure_eq_error_iff {build : α → β} {fault : ε} :
    (outcome >>= fun value => pure (build value)) = .error fault ↔ outcome = .error fault := by
  cases outcome <;> simp [bind, Except.bind, pure, Except.pure]

theorem pure_eq_ok_iff {other : α} : (pure value : Except ε α) = .ok other ↔ value = other := by
  simp [pure, Except.pure]

theorem pure_ne_error {fault : ε} : (pure value : Except ε α) ≠ .error fault := nofun

theorem mapError_eq_ok_iff {f : ε → δ} : outcome.mapError f = .ok value ↔ outcome = .ok value := by
  cases outcome <;> constructor <;> intro same <;> cases same <;> rfl

/-- A check gives a value. -/
def Succeeds (outcome : Except ε α) : Prop := ∃ value, outcome = .ok value

@[simp] theorem succeeds_ok : Succeeds (.ok value : Except ε α) := ⟨value, rfl⟩

@[simp] theorem succeeds_pure : Succeeds (pure value : Except ε α) := ⟨value, rfl⟩

@[simp] theorem not_succeeds_error {fault : ε} : ¬ Succeeds (.error fault : Except ε α) := nofun

theorem succeeds_bind_iff {next : α → Except ε β} :
    Succeeds (outcome >>= next) ↔ ∃ value, outcome = .ok value ∧ Succeeds (next value) := by
  cases outcome <;> simp [Succeeds, bind, Except.bind]

/-- What follows a check succeeds or not whatever value the check gives. -/
theorem succeeds_bind_iff_and {next : α → Except ε β} {condition : Prop}
    (same : ∀ value, Succeeds (next value) ↔ condition) :
    Succeeds (outcome >>= next) ↔ Succeeds outcome ∧ condition := by
  simp only [succeeds_bind_iff, same]
  exact exists_and_right

@[simp] theorem succeeds_bind_pure_iff {build : α → β} :
    Succeeds (outcome >>= fun value => (pure (build value) : Except ε β)) ↔ Succeeds outcome := by
  rw [succeeds_bind_iff_and fun _ => iff_true_intro succeeds_pure, and_true]

@[simp] theorem succeeds_mapError_iff {f : ε → δ} :
    Succeeds (outcome.mapError f) ↔ Succeeds outcome := by
  simp only [Succeeds, mapError_eq_ok_iff]

theorem succeeds_mapM_iff {check : α → Except ε β} {items : List α} :
    Succeeds (items.mapM check) ↔ ∀ item ∈ items, Succeeds (check item) := by
  induction items with
  | nil => simp
  | cons item rest ih =>
      rw [List.mapM_cons, succeeds_bind_iff_and fun _ => succeeds_bind_pure_iff.trans ih,
        List.forall_mem_cons]

theorem mapM_eq_ok_iff {check : α → Except ε β} {items : List α} {values : List β} :
    items.mapM check = .ok values ↔
      List.Forall₂ (fun item value => check item = .ok value) items values := by
  induction items generalizing values with
  | nil => rw [List.mapM_nil, pure_eq_ok_iff, List.forall₂_nil_left_iff, eq_comm]
  | cons item rest ih =>
      simp only [List.mapM_cons, bind_eq_ok_iff, pure_eq_ok_iff, ih, List.forall₂_cons_left_iff]
      constructor
      · rintro ⟨value, here, others, behind, rfl⟩
        exact ⟨value, others, here, behind, rfl⟩
      · rintro ⟨value, others, here, behind, rfl⟩
        exact ⟨value, here, others, behind, rfl⟩

/-- A list of checks fails as the first one that fails. -/
theorem mapM_eq_error_iff {check : α → Except ε β} {items : List α} {fault : ε} :
    items.mapM check = .error fault ↔
      ∃ before item after, items = before ++ item :: after ∧
        (∀ earlier ∈ before, Succeeds (check earlier)) ∧ check item = .error fault := by
  constructor
  · intro fails
    induction items with
    | nil => cases fails
    | cons item rest ih =>
        rw [List.mapM_cons, bind_eq_error_iff] at fails
        rcases fails with here | ⟨value, passes, behind⟩
        · exact ⟨[], item, rest, rfl, List.forall_mem_nil _, here⟩
        · obtain ⟨before, found, after, rfl, earlier, fails⟩ := ih (bind_pure_eq_error_iff.mp behind)
          refine ⟨item :: before, found, after, rfl, ?_, fails⟩
          exact List.forall_mem_cons.mpr ⟨⟨value, passes⟩, earlier⟩
  · rintro ⟨before, item, after, rfl, earlier, fails⟩
    induction before with
    | nil => rw [List.nil_append, List.mapM_cons, fails]; rfl
    | cons first before ih =>
        obtain ⟨⟨value, passes⟩, earlier⟩ := List.forall_mem_cons.mp earlier
        rw [List.cons_append, List.mapM_cons, passes]
        exact bind_pure_eq_error_iff.mpr (ih earlier)

end

end ApiMock.Schema
