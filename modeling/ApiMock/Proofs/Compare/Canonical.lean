import ApiMock.Compare.Canonical
import ApiMock.Proofs.Value.DeepPerm

/-!
# Sorting by canonical strings

Canonical strings do not see the order of items. Sorting permutes the items of an array, and the
canonical strings of the sorted items depend only on which strings there are. So the sorted arrays of
one document and of a deep permutation of it agree place by place, if items with the same canonical
string are interchangeable.
-/

set_option autoImplicit false

namespace ApiMock.Value

open List (Forall₂)

theorem canonicalItems_eq_map (items : List Value) : canonicalItems items = items.map canonical := by
  induction items with
  | nil => rfl
  | cons item rest ih => rw [canonicalItems, ih, List.map_cons]

theorem canonicalMembers_eq_flatMap (members : List (String × Value)) :
    canonicalMembers members = members.flatMap fun member => [member.1, member.2.canonical] := by
  induction members with
  | nil => rfl
  | cons member rest ih => rw [canonicalMembers, ih, List.flatMap_cons]; rfl

theorem canonical_array (items : List Value) :
    canonical (.array items) = joinPoints (sortTexts (items.map canonical)) := by
  rw [canonical, canonicalItems_eq_map]

theorem canonical_object (members : List (String × Value)) :
    canonical (.object members) =
      joinPoints (members.flatMap fun member => [member.1, member.2.canonical]) := by
  rw [canonical, canonicalMembers_eq_flatMap]

theorem pairwise_sortTexts (texts : List String) : (sortTexts texts).Pairwise (· ≤ ·) := by
  have sorted : (sortTexts texts).Pairwise fun a b => decide (a ≤ b) = true := by
    refine List.pairwise_mergeSort ?_ ?_ texts
    · intro a b c first second
      exact decide_eq_true (String.le_trans (of_decide_eq_true first) (of_decide_eq_true second))
    · intro a b
      simpa using String.le_total a b
  exact sorted.imp of_decide_eq_true

/-- Sorted texts depend only on which texts there are, and how often. -/
theorem sortTexts_eq_of_perm {texts permuted : List String} (perm : texts.Perm permuted) :
    sortTexts texts = sortTexts permuted := by
  have sorted : (sortTexts texts).Perm (sortTexts permuted) :=
    (List.mergeSort_perm texts _).trans (perm.trans (List.mergeSort_perm permuted _).symm)
  exact sorted.eq_of_pairwise (fun _ _ _ _ => String.le_antisymm) (pairwise_sortTexts _)
    (pairwise_sortTexts _)

/-- Labels decide where the items go, whatever is done to the items. -/
theorem sortLabelled_map {α β : Type} (label : α → String) (f : α → β) (items : List α) :
    sortLabelled (items.map fun item => (label item, f item)) =
      (items.mergeSort fun a b => label a ≤ label b).map f := by
  have labelled : (items.map fun item => (label item, f item)).mergeSort (fun a b => a.1 ≤ b.1) =
      (items.mergeSort fun a b => label a ≤ label b).map fun item => (label item, f item) :=
    (List.map_mergeSort (f := fun item => (label item, f item)) fun _ _ _ _ => rfl).symm
  rw [sortLabelled, labelled, List.map_map]
  rfl

theorem zipIdxLE_of_lt {α : Type} (label : α → String) {x y : α} {i j : Nat} (before : i < j) :
    List.zipIdxLE (fun a b => decide (label a ≤ label b)) (x, i) (y, j) =
      decide (label x ≤ label y) := by
  have ordered : i ≤ j := Nat.le_of_lt before
  simp [List.zipIdxLE, ordered]

theorem zipIdxLE_of_gt {α : Type} (label : α → String) {x y : α} {i j : Nat} (behind : j < i) :
    List.zipIdxLE (fun a b => decide (label a ≤ label b)) (x, i) (y, j) =
      !decide (label y ≤ label x) := by
  have ordered : ¬ i ≤ j := Nat.not_le_of_lt behind
  rcases String.le_total (label x) (label y) with le | le <;> simp [List.zipIdxLE, ordered, le]

/-- Items that two labels put into the same order, pair by pair, are sorted alike by both. -/
theorem mergeSort_eq_of_pairwise {α : Type} {first second : α → String} {items : List α}
    (alike : items.Pairwise fun a b => (first a ≤ first b ↔ second a ≤ second b)) :
    (items.mergeSort fun a b => first a ≤ first b) =
      items.mergeSort fun a b => second a ≤ second b := by
  -- a stable sort of the items is a sort of the items with their positions
  have agree : ∀ a ∈ items.zipIdx, ∀ b ∈ items.zipIdx,
      List.zipIdxLE (fun a b => decide (first a ≤ first b)) a b =
        List.zipIdxLE (fun a b => decide (second a ≤ second b)) a b := by
    rintro ⟨x, i⟩ xMember ⟨y, j⟩ yMember
    obtain ⟨xBound, rfl⟩ := List.getElem?_eq_some_iff.mp (List.mk_mem_zipIdx_iff_getElem?.mp xMember)
    obtain ⟨yBound, rfl⟩ := List.getElem?_eq_some_iff.mp (List.mk_mem_zipIdx_iff_getElem?.mp yMember)
    have pairs := List.pairwise_iff_getElem.mp alike
    rcases Nat.lt_trichotomy i j with before | rfl | behind
    · rw [zipIdxLE_of_lt first before, zipIdxLE_of_lt second before]
      exact decide_eq_decide.mpr (pairs i j xBound yBound before)
    · simp [List.zipIdxLE]
    · rw [zipIdxLE_of_gt first behind, zipIdxLE_of_gt second behind]
      exact congrArg Bool.not (decide_eq_decide.mpr (pairs j i yBound xBound behind))
  calc (items.mergeSort fun a b => first a ≤ first b)
      = (items.zipIdx.mergeSort (List.zipIdxLE fun a b => first a ≤ first b)).map Prod.fst :=
        List.mergeSort_zipIdx.symm
    _ = (items.zipIdx.mergeSort (List.zipIdxLE fun a b => second a ≤ second b)).map Prod.fst := by
        have sorted := List.map_mergeSort (f := id) agree
        rw [List.map_id, List.map_id] at sorted
        rw [sorted]
    _ = items.mergeSort fun a b => second a ≤ second b := List.mergeSort_zipIdx

theorem sortByCanonical_eq_mergeSort (items : List Value) :
    sortByCanonical items = items.mergeSort fun a b => a.canonical ≤ b.canonical := by
  rw [sortByCanonical, sortLabelled_map canonical, List.map_id']

theorem sortByCanonical_pair (x y : Value) :
    sortByCanonical [x, y] = if x.canonical ≤ y.canonical then [x, y] else [y, x] := by
  rw [sortByCanonical_eq_mergeSort]
  by_cases le : x.canonical ≤ y.canonical <;> simp [List.mergeSort, le]

theorem map_mergeSort_canonical {α : Type} (f : α → Value) (items : List α) :
    (items.mergeSort fun a b => (f a).canonical ≤ (f b).canonical).map f =
      sortByCanonical (items.map f) := by
  rw [sortByCanonical_eq_mergeSort]
  exact List.map_mergeSort fun _ _ _ _ => rfl

theorem sortLabelled_map_canonical {β : Type} (f : Value → β) (items : List Value) :
    sortLabelled (items.map fun item => (item.canonical, f item)) =
      (sortByCanonical items).map f := by
  rw [sortLabelled_map canonical, sortByCanonical_eq_mergeSort]

theorem sortByCanonical_perm (items : List Value) : (sortByCanonical items).Perm items := by
  rw [sortByCanonical_eq_mergeSort]
  exact List.mergeSort_perm items _

theorem map_canonical_sortByCanonical (items : List Value) :
    (sortByCanonical items).map canonical = sortTexts (items.map canonical) := by
  rw [sortByCanonical_eq_mergeSort]
  exact List.map_mergeSort fun _ _ _ _ => rfl

/-- Of two arrays whose items stand in the same canonical order, pair by pair, sorting moves the
pairs as a whole. -/
theorem zip_sortByCanonical_perm {first second : List Value}
    (same : first.length = second.length)
    (alike : (first.zip second).Pairwise fun p q =>
      (p.1.canonical ≤ q.1.canonical ↔ p.2.canonical ≤ q.2.canonical)) :
    ((sortByCanonical first).zip (sortByCanonical second)).Perm (first.zip second) := by
  have moved := mergeSort_eq_of_pairwise alike
  have left := map_mergeSort_canonical Prod.fst (first.zip second)
  have right := map_mergeSort_canonical Prod.snd (first.zip second)
  rw [List.map_fst_zip (Nat.le_of_eq same)] at left
  rw [List.map_snd_zip (Nat.le_of_eq same.symm), ← moved] at right
  rw [← List.zip_of_prod left right]
  exact List.mergeSort_perm _ _

/-- Canonical strings do not depend on the order of items, at any depth. -/
theorem DeepPerm.canonical_eq {old new : Value} (perm : DeepPerm old new) :
    new.canonical = old.canonical := by
  induction old generalizing new with
  | null => cases perm; rfl
  | bool => cases perm; rfl
  | number => cases perm; rfl
  | string => cases perm; rfl
  | array items ih =>
      cases perm with
      | @array _ changed permuted changes perm =>
          have texts : changed.map canonical = items.map canonical :=
            map_eq_of_forall₂ changes fun item member _ same => ih item member same
          rw [canonical_array, canonical_array, ← texts]
          exact congrArg joinPoints (sortTexts_eq_of_perm (perm.map canonical).symm)
  | object members ih =>
      cases perm with
      | @object _ changed names values =>
          have chunks : (changed.map fun member => [member.1, member.2.canonical]) =
              members.map fun member => [member.1, member.2.canonical] := by
            refine map_eq_of_forall₂ (forall₂_memberPerm_iff.mpr ⟨names, values⟩) ?_
            rintro ⟨name, value⟩ member ⟨_, changedValue⟩ ⟨rfl, same⟩
            rw [ih name value member same]
          rw [canonical_object, canonical_object, List.flatMap, List.flatMap, chunks]

/-- Items of one array with the same canonical string are the same up to the order of items. -/
def TiesAgree : Value → Prop
  | .array items => ∀ first ∈ items, ∀ second ∈ items,
      first.canonical = second.canonical → DeepPerm first second
  | _ => True

/-- In every array of the value, items with the same canonical string are interchangeable. -/
def TiesInterchangeable (value : Value) : Prop := ∀ part, Part part value → part.TiesAgree

theorem tiesInterchangeable_array_iff {items : List Value} :
    TiesInterchangeable (.array items) ↔
      TiesAgree (.array items) ∧ ∀ item ∈ items, item.TiesInterchangeable :=
  forall_part_array

theorem tiesInterchangeable_object_iff {members : List (String × Value)} :
    TiesInterchangeable (.object members) ↔
      ∀ name value, (name, value) ∈ members → value.TiesInterchangeable := by
  unfold TiesInterchangeable
  rw [forall_part_object]
  exact and_iff_right trivial

theorem TiesInterchangeable.of_isScalar {value : Value} (scalar : value.IsScalar) :
    value.TiesInterchangeable := by
  refine (forall_part_of_isScalar scalar).mpr ?_
  cases value with
  | array => exact scalar.elim
  | _ => trivial

theorem TiesInterchangeable.of_texts (texts : List String) :
    TiesInterchangeable (.array (texts.map .string)) := by
  refine tiesInterchangeable_array_iff.mpr ⟨?_, ?_⟩
  · intro first firstMember second secondMember same
    obtain ⟨text, _, rfl⟩ := List.mem_map.mp firstMember
    obtain ⟨other, _, rfl⟩ := List.mem_map.mp secondMember
    obtain rfl : text = other := same
    exact .string
  · intro item member
    obtain ⟨text, _, rfl⟩ := List.mem_map.mp member
    exact .of_isScalar trivial

/-- Sorting brings an array and a permutation of it into step. -/
theorem forall₂_sortByCanonical {items changed : List Value} (ties : TiesAgree (.array items))
    (perm : DeepPerm (.array items) (.array changed)) :
    Forall₂ DeepPerm (sortByCanonical items) (sortByCanonical changed) := by
  cases perm with
  | @array _ rearranged _ changes perm =>
      have texts : (sortByCanonical items).map canonical =
          (sortByCanonical changed).map canonical := by
        rw [map_canonical_sortByCanonical, map_canonical_sortByCanonical,
          ← map_eq_of_forall₂ changes fun _ _ _ same => same.canonical_eq]
        exact sortTexts_eq_of_perm (perm.map canonical)
      rw [← List.forall₂_eq_eq_eq, List.forall₂_map_left_iff, List.forall₂_map_right_iff] at texts
      refine (forall₂_mem texts).imp fun old new ⟨oldMember, newMember, same⟩ => ?_
      -- the new item comes from an item with the canonical string of the old one
      have inside : new ∈ rearranged :=
        ((sortByCanonical_perm changed).trans perm.symm).mem_iff.mp newMember
      obtain ⟨origin, member, change⟩ := exists_mem_of_forall₂ changes inside
      have tie : old.canonical = origin.canonical := same.trans change.canonical_eq
      have oldInside := (sortByCanonical_perm items).mem_iff.mp oldMember
      exact (ties old oldInside origin member tie).trans change

end ApiMock.Value
