import ApiMock.Proofs.Compare.ArrayOrder

/-!
# Sorting at every depth

A comparison that ignores the order of arrays sorts the items of two arrays when it comes to them, by
canonical strings of items that are not sorted themselves. Both documents could as well be sorted at
every depth beforehand and then be compared in order: canonical strings do not see the order of items,
so sorting inside of items changes no string by which they are sorted.
-/

set_option autoImplicit false

namespace ApiMock

open List (Forall₂)

namespace Value

mutual

/-- The value with the items of every array in ascending order of their canonical strings. Items
with the same string keep their order. -/
def sortDeep : Value → Value
  | .array items => .array (sortByCanonical (sortItemsDeep items))
  | .object members => .object (sortMembersDeep members)
  | scalar => scalar

def sortItemsDeep : List Value → List Value
  | [] => []
  | item :: rest => sortDeep item :: sortItemsDeep rest

def sortMembersDeep : List (String × Value) → List (String × Value)
  | [] => []
  | (name, value) :: rest => (name, sortDeep value) :: sortMembersDeep rest

end

theorem sortItemsDeep_eq_map (items : List Value) : sortItemsDeep items = items.map sortDeep := by
  induction items with
  | nil => rfl
  | cons item rest ih => rw [sortItemsDeep, ih, List.map_cons]

theorem sortMembersDeep_eq_map (members : List (String × Value)) :
    sortMembersDeep members = members.map fun member => (member.1, member.2.sortDeep) := by
  induction members with
  | nil => rfl
  | cons member rest ih => rw [sortMembersDeep, ih, List.map_cons]

theorem sortDeep_object (members : List (String × Value)) :
    sortDeep (.object members) = .object (sortMembersDeep members) := by
  rw [sortDeep]

theorem length_sortMembersDeep (members : List (String × Value)) :
    (sortMembersDeep members).length = members.length := by
  rw [sortMembersDeep_eq_map, List.length_map]

theorem lookup_sortMembersDeep (members : List (String × Value)) (name : String) :
    (sortMembersDeep members).lookup name = (members.lookup name).map sortDeep := by
  rw [sortMembersDeep_eq_map]
  exact Keyed.lookup_map_values fun _ => sortDeep

theorem sortDeep_of_isScalar {value : Value} (scalar : value.IsScalar) : value.sortDeep = value := by
  cases value with
  | array => exact scalar.elim
  | object => exact scalar.elim
  | _ => rw [sortDeep] <;> nofun

theorem deepPerm_sortDeep (value : Value) : DeepPerm value value.sortDeep := by
  induction value with
  | array items ih =>
      have changes : Forall₂ DeepPerm items (items.map sortDeep) := by
        rw [List.forall₂_map_right_iff, List.forall₂_same]
        exact ih
      -- the items are changed in place first, then the sort permutes them
      rw [sortDeep, sortItemsDeep_eq_map]
      exact .array changes (sortByCanonical_perm _).symm
  | object members ih =>
      rw [sortDeep_object, sortMembersDeep_eq_map, deepPerm_object_iff,
        List.forall₂_map_right_iff, List.forall₂_same]
      intro member inside
      exact ⟨rfl, ih member.1 member.2 inside⟩
  | _ =>
      rw [sortDeep_of_isScalar (by trivial)]
      exact .refl _

theorem canonical_sortDeep (value : Value) : value.sortDeep.canonical = value.canonical :=
  (deepPerm_sortDeep value).canonical_eq

theorem kind_sortDeep (value : Value) : value.sortDeep.kind = value.kind :=
  (deepPerm_sortDeep value).kind_eq

/-- Items may be sorted inside before or after they are sorted themselves. -/
theorem sortByCanonical_map_sortDeep (items : List Value) :
    sortByCanonical (items.map sortDeep) = (sortByCanonical items).map sortDeep := by
  have sorted := map_mergeSort_canonical sortDeep items
  simp only [canonical_sortDeep] at sorted
  rw [← sorted, sortByCanonical_eq_mergeSort]

theorem sortDeep_array (items : List Value) :
    sortDeep (.array items) = .array ((sortByCanonical items).map sortDeep) := by
  rw [sortDeep, sortItemsDeep_eq_map, sortByCanonical_map_sortDeep]

example :
    sortDeep (.array [.string "b", .array [.string "z", .string "a"]]) =
      .array [.array [.string "a", .string "z"], .string "b"] := by
  cbv

theorem length_map_sortDeep (items : List Value) :
    ((sortByCanonical items).map sortDeep).length = items.length := by
  rw [List.length_map, (sortByCanonical_perm items).length_eq]

theorem sortByCanonical_sortByCanonical (items : List Value) :
    sortByCanonical (sortByCanonical items) = sortByCanonical items := by
  have texts : ((sortByCanonical items).map canonical).Pairwise (· ≤ ·) := by
    rw [map_canonical_sortByCanonical]
    exact pairwise_sortTexts _
  have sorted : (sortByCanonical items).Pairwise fun a b =>
      decide (a.canonical ≤ b.canonical) = true :=
    (List.pairwise_map.mp texts).imp decide_eq_true
  rw [sortByCanonical_eq_mergeSort (sortByCanonical items)]
  exact List.mergeSort_of_pairwise sorted

theorem sortDeep_sortDeep (value : Value) : value.sortDeep.sortDeep = value.sortDeep := by
  induction value with
  | array items ih =>
      have again : ∀ item ∈ sortByCanonical items, item.sortDeep.sortDeep = item.sortDeep := by
        intro item member
        exact ih item ((sortByCanonical_perm items).mem_iff.mp member)
      -- both sorts come before the changes, so that the second one finds the items in order
      rw [sortDeep_array, sortDeep_array, sortByCanonical_map_sortDeep,
        sortByCanonical_sortByCanonical, List.map_map]
      exact congrArg Value.array (List.map_congr_left again)
  | object members ih =>
      rw [sortDeep_object, sortDeep_object, sortMembersDeep_eq_map, sortMembersDeep_eq_map,
        List.map_map]
      refine congrArg Value.object (List.map_congr_left fun member inside => ?_)
      simp only [Function.comp_apply, ih member.1 member.2 inside]
  | _ => rw [sortDeep_of_isScalar (by trivial)]

end Value

/-! ## Comparing what is sorted -/

variable {options : CompareOptions}

theorem CompareOptions.arrange_ordered (items : List Value) :
    options.ordered.arrange items = items :=
  if_neg Bool.false_ne_true

theorem CompareOptions.arrange_unordered (items : List Value) :
    options.unordered.arrange items = Value.sortByCanonical items :=
  if_pos rfl

theorem compare_sortDeep_array {items found : List Value} (lengths : items.length = found.length)
    (same : ∀ x ∈ items, ∀ y ∈ found,
      compare options.unordered x y = compare options.ordered x.sortDeep y.sortDeep) :
    compare options.unordered (.array items) (.array found) =
      compare options.ordered (Value.sortDeep (.array items)) (Value.sortDeep (.array found)) := by
  have sortedLengths : ((Value.sortByCanonical items).map Value.sortDeep).length =
      ((Value.sortByCanonical found).map Value.sortDeep).length := by
    rw [Value.length_map_sortDeep, Value.length_map_sortDeep]
    exact lengths
  rw [Value.sortDeep_array, Value.sortDeep_array, compare_array lengths,
    compare_array sortedLengths]
  simp only [CompareOptions.arrange_unordered, CompareOptions.arrange_ordered, List.zip_map,
    List.zipIdx_map, List.flatMap_map]
  refine List.flatMap_congr fun pair member => ?_
  obtain ⟨xMember, yMember⟩ := options.unordered.mem_of_mem_arrange member
  exact congrArg _ (same pair.1.1 xMember pair.1.2 yMember)

theorem compare_sortDeep_object {members found : List (String × Value)}
    (counted : options.disallowExtraFields = true → members.length = found.length)
    (same : ∀ name x y, (name, x) ∈ members → (name, y) ∈ found →
      compare options.unordered x y = compare options.ordered x.sortDeep y.sortDeep) :
    compare options.unordered (.object members) (.object found) =
      compare options.ordered (Value.sortDeep (.object members))
        (Value.sortDeep (.object found)) := by
  have sortedCounted : options.disallowExtraFields = true →
      (Value.sortMembersDeep members).length = (Value.sortMembersDeep found).length := by
    rw [Value.length_sortMembersDeep, Value.length_sortMembersDeep]
    exact counted
  rw [Value.sortDeep_object, Value.sortDeep_object, @compare_object options.unordered _ _ counted,
    @compare_object options.ordered _ _ sortedCounted, Value.sortMembersDeep_eq_map members,
    List.flatMap_map]
  refine List.flatMap_congr fun ⟨name, x⟩ member => ?_
  have sorted := Value.lookup_sortMembersDeep found name
  cases present : found.lookup name with
  | none =>
      rw [present] at sorted
      rw [compareMember_of_lookup_eq_none x present, compareMember_of_lookup_eq_none _ sorted]
  | some y =>
      rw [present] at sorted
      rw [compareMember_of_lookup_eq_some x present, compareMember_of_lookup_eq_some _ sorted,
        same name x y member (Keyed.mem_of_lookup present)]

theorem compare_sortDeep (expected actual : Value) :
    compare options.unordered expected actual =
      compare options.ordered expected.sortDeep actual.sortDeep := by
  induction expected, actual using inductionOnComparison options with
  | kinds expected actual differ =>
      have sortedDiffer : expected.sortDeep.kind ≠ actual.sortDeep.kind := by
        rw [expected.kind_sortDeep, actual.kind_sortDeep]
        exact differ
      rw [compare_of_kind_ne differ, compare_of_kind_ne sortedDiffer, expected.kind_sortDeep,
        actual.kind_sortDeep]
  | scalars expected actual scalar kinds =>
      have actualScalar := isScalar_of_kind_eq scalar kinds
      rw [Value.sortDeep_of_isScalar scalar, Value.sortDeep_of_isScalar actualScalar,
        compare_ordered_of_isScalar scalar]
  | lengths items found differ =>
      have sortedDiffer : ((Value.sortByCanonical items).map Value.sortDeep).length ≠
          ((Value.sortByCanonical found).map Value.sortDeep).length := by
        rw [Value.length_map_sortDeep, Value.length_map_sortDeep]
        exact differ
      rw [Value.sortDeep_array, Value.sortDeep_array, compare_array_of_length_ne differ,
        compare_array_of_length_ne sortedDiffer, Value.length_map_sortDeep,
        Value.length_map_sortDeep]
  | arrays items found same ih => exact compare_sortDeep_array same ih
  | counts members found strict differ =>
      have sortedDiffer :
          (Value.sortMembersDeep members).length ≠ (Value.sortMembersDeep found).length := by
        rw [Value.length_sortMembersDeep, Value.length_sortMembersDeep]
        exact differ
      rw [Value.sortDeep_object, Value.sortDeep_object,
        @compare_object_of_length_ne options.unordered _ _ strict differ,
        @compare_object_of_length_ne options.ordered _ _ strict sortedDiffer,
        Value.length_sortMembersDeep, Value.length_sortMembersDeep]
  | objects members found counted ih => exact compare_sortDeep_object counted ih

/-- Comparing without regard to the order of arrays is sorting both documents at every depth and
comparing them in order. What is sorted stays as it is, and keeps the canonical string it had. The
sort is stable and goes by the canonical strings of sorted items. -/
theorem compare_unordered_eq_ordered_sortDeep (options : CompareOptions) :
    (∀ expected actual : Value,
      compare options.unordered expected actual =
        compare options.ordered expected.sortDeep actual.sortDeep) ∧
      (∀ value : Value,
        value.sortDeep.sortDeep = value.sortDeep ∧ value.sortDeep.canonical = value.canonical) ∧
      (∀ items : List Value, Value.sortDeep (.array items) =
        .array ((items.map Value.sortDeep).mergeSort fun a b => a.canonical ≤ b.canonical)) ∧
      (∀ members : List (String × Value), Value.sortDeep (.object members) =
        .object (members.map fun member => (member.1, member.2.sortDeep))) ∧
      ∀ value : Value, value.IsScalar → value.sortDeep = value := by
  refine ⟨compare_sortDeep, fun value => ⟨value.sortDeep_sortDeep, value.canonical_sortDeep⟩,
    fun items => ?_, fun members => ?_, fun _ => Value.sortDeep_of_isScalar⟩
  · rw [Value.sortDeep, Value.sortItemsDeep_eq_map, Value.sortByCanonical_eq_mergeSort]
  · rw [Value.sortDeep_object, Value.sortMembersDeep_eq_map]

end ApiMock
