import ApiMock.Proofs.Value.Part
import Mathlib.Data.List.Forall2
import Mathlib.Data.List.Perm.Basic

/-!
# Deep permutations

Two values are the same document up to the order of items when one is obtained from the other by
permuting the items of arrays, at any depth. Scalars are identical and objects keep their members.
-/

set_option autoImplicit false

namespace ApiMock.Value

open List (Forall₂)

/-- The second value is the first one with the items of arrays permuted, at any depth. -/
inductive DeepPerm : Value → Value → Prop where
  | null : DeepPerm .null .null
  | bool {value} : DeepPerm (.bool value) (.bool value)
  | number {value} : DeepPerm (.number value) (.number value)
  | string {value} : DeepPerm (.string value) (.string value)
  | array {items changed permuted} :
      Forall₂ DeepPerm items changed → changed.Perm permuted →
      DeepPerm (.array items) (.array permuted)
  | object {members changed} :
      Keyed.keys members = Keyed.keys changed →
      Forall₂ DeepPerm (members.map Prod.snd) (changed.map Prod.snd) →
      DeepPerm (.object members) (.object changed)

/-- A member and the same member with its value deeply permuted. -/
def MemberPerm (old new : String × Value) : Prop := old.1 = new.1 ∧ DeepPerm old.2 new.2

section

variable {α β : Type} {relation : α → β → Prop} {xs : List α} {ys : List β}

theorem forall₂_mem (related : Forall₂ relation xs ys) :
    Forall₂ (fun x y => x ∈ xs ∧ y ∈ ys ∧ relation x y) xs ys := by
  rw [List.forall₂_iff_zip] at related ⊢
  refine ⟨related.1, fun inside => ?_⟩
  have ⟨left, right⟩ := List.of_mem_zip inside
  exact ⟨left, right, related.2 inside⟩

theorem forall₂_congr {other : α → β → Prop}
    (same : ∀ x ∈ xs, ∀ y ∈ ys, (relation x y ↔ other x y)) :
    Forall₂ relation xs ys ↔ Forall₂ other xs ys := by
  constructor
  · intro related
    exact (forall₂_mem related).imp fun x y ⟨left, right, holds⟩ => (same x left y right).mp holds
  · intro related
    exact (forall₂_mem related).imp fun x y ⟨left, right, holds⟩ => (same x left y right).mpr holds

theorem map_eq_of_forall₂ {γ : Type} {f : α → γ} {g : β → γ} (related : Forall₂ relation xs ys)
    (same : ∀ x ∈ xs, ∀ y, relation x y → g y = f x) : ys.map g = xs.map f := by
  rw [← List.forall₂_eq_eq_eq, List.forall₂_map_left_iff, List.forall₂_map_right_iff]
  refine List.Forall₂.flip ((forall₂_mem related).imp ?_)
  exact fun x y ⟨member, _, holds⟩ => same x member y holds

theorem exists_mem_of_forall₂ (related : Forall₂ relation xs ys) {y : β} (member : y ∈ ys) :
    ∃ x ∈ xs, relation x y := by
  induction related with
  | nil => cases member
  | cons first _ ih =>
      rcases List.mem_cons.mp member with rfl | member
      · exact ⟨_, List.mem_cons_self, first⟩
      · obtain ⟨x, inside, holds⟩ := ih member
        exact ⟨x, List.mem_cons_of_mem _ inside, holds⟩

end

theorem forall₂_exists {α β γ : Type} {left : β → γ → Prop} {right : α → γ → Prop} {xs : List α}
    {ys : List β} (related : Forall₂ (fun x y => ∃ z, left y z ∧ right x z) xs ys) :
    ∃ zs, Forall₂ left ys zs ∧ Forall₂ right xs zs := by
  induction related with
  | nil => exact ⟨[], .nil, .nil⟩
  | cons first _ ih =>
      obtain ⟨z, first, second⟩ := first
      obtain ⟨zs, lefts, rights⟩ := ih
      exact ⟨z :: zs, .cons first lefts, .cons second rights⟩

theorem forall₂_trans {α : Type} {relation : α → α → Prop} {xs ys zs : List α}
    (trans : ∀ x ∈ xs, ∀ y z, relation x y → relation y z → relation x z)
    (left : Forall₂ relation xs ys) (right : Forall₂ relation ys zs) : Forall₂ relation xs zs := by
  induction left generalizing zs with
  | nil => exact right
  | cons first _ ih =>
      cases right with
      | cons second right =>
          refine .cons (trans _ List.mem_cons_self _ _ first second) (ih ?_ right)
          exact fun x member => trans x (List.mem_cons_of_mem _ member)

theorem forall₂_memberPerm_iff {members changed : List (String × Value)} :
    Forall₂ MemberPerm members changed ↔
      Keyed.keys members = Keyed.keys changed ∧
        Forall₂ DeepPerm (members.map Prod.snd) (changed.map Prod.snd) := by
  rw [Keyed.keys, Keyed.keys, ← List.forall₂_eq_eq_eq]
  simp only [List.forall₂_map_left_iff, List.forall₂_map_right_iff]
  constructor
  · intro both
    exact ⟨both.imp fun _ _ same => same.1, both.imp fun _ _ same => same.2⟩
  · rintro ⟨names, values⟩
    exact names.mp (fun _ _ name value => ⟨name, value⟩) values

theorem deepPerm_object_iff {members changed : List (String × Value)} :
    DeepPerm (.object members) (.object changed) ↔ Forall₂ MemberPerm members changed := by
  rw [forall₂_memberPerm_iff]
  constructor
  · intro perm
    cases perm with
    | object names values => exact ⟨names, values⟩
  · rintro ⟨names, values⟩
    exact .object names values

namespace DeepPerm

theorem refl (value : Value) : DeepPerm value value := by
  induction value with
  | null => exact .null
  | bool => exact .bool
  | number => exact .number
  | string => exact .string
  | array items ih => exact .array (List.forall₂_same.mpr ih) (.refl items)
  | object members ih =>
      exact deepPerm_object_iff.mpr
        (List.forall₂_same.mpr fun member inside => ⟨rfl, ih _ _ inside⟩)

theorem kind_eq {old new : Value} (perm : DeepPerm old new) : new.kind = old.kind := by
  cases perm <;> rfl

theorem length_items {items permuted : List Value}
    (perm : DeepPerm (.array items) (.array permuted)) : permuted.length = items.length := by
  cases perm with
  | array changes perm => exact perm.length_eq.symm.trans changes.length_eq.symm

theorem length_members {members changed : List (String × Value)}
    (perm : DeepPerm (.object members) (.object changed)) : changed.length = members.length :=
  (deepPerm_object_iff.mp perm).length_eq.symm

/-- The items may also be permuted first and changed afterwards. -/
theorem array_of_perm {items permuted changed : List Value} (perm : items.Perm permuted)
    (changes : Forall₂ DeepPerm permuted changed) : DeepPerm (.array items) (.array changed) := by
  obtain ⟨rearranged, changes, perm⟩ := List.perm_comp_forall₂ perm changes
  exact .array changes perm

theorem trans {first second third : Value} (left : DeepPerm first second)
    (right : DeepPerm second third) : DeepPerm first third := by
  induction first generalizing second third with
  | null => cases left; exact right
  | bool => cases left; exact right
  | number => cases left; exact right
  | string => cases left; exact right
  | array items ih =>
      cases left with
      | array changed perm =>
          cases right with
          | array changedAgain permAgain =>
              -- the first rearrangement is moved behind the second change
              obtain ⟨both, changedAgain, perm⟩ := List.perm_comp_forall₂ perm changedAgain
              exact .array (forall₂_trans (fun item member _ _ => ih item member) changed changedAgain)
                (perm.trans permAgain)
  | object members ih =>
      cases left with
      | object names values =>
          cases right with
          | object namesAgain valuesAgain =>
              refine .object (names.trans namesAgain) (forall₂_trans ?_ values valuesAgain)
              intro value member _ _
              obtain ⟨⟨name, _⟩, inside, rfl⟩ := List.mem_map.mp member
              exact ih name _ inside

end DeepPerm

end ApiMock.Value
