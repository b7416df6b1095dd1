import ApiMock.Proofs.Compare.Descent
import ApiMock.Proofs.Keyed.Lookup

/-!
# Comparisons that ignore values

A comparison that ignores values reports what one that does not would report, without the mismatches
of values. Values are looked at where the descent ends, so what is reported elsewhere and how sorted
items are paired do not depend on whether they count.
-/

set_option autoImplicit false

namespace ApiMock

/-- The same options, with values compared. -/
def CompareOptions.withValues (options : CompareOptions) : CompareOptions :=
  { options with ignoreValues := false }

/-- The same options, with nothing compared but structure and kinds. -/
def CompareOptions.withoutValues (options : CompareOptions) : CompareOptions :=
  { options with ignoreValues := true }

/-- Whether the structure of two documents differs, and not only their values. -/
def Mismatch.isOfStructure (mismatch : Mismatch) : Bool := !mismatch.difference.isOfValues

theorem filter_map_within (outer : Location) (mismatches : List Mismatch) :
    (mismatches.map (Mismatch.within outer)).filter Mismatch.isOfStructure =
      (mismatches.filter Mismatch.isOfStructure).map (Mismatch.within outer) :=
  List.filter_map

theorem isOfValues_of_scalarDifference? {expected actual : Value} {difference : Difference}
    (found : scalarDifference? expected actual = some difference) :
    difference.isOfValues = true := by
  unfold scalarDifference? at found
  dsimp only at found
  split at found
  · split at found
    · cases found
      rfl
    · obtain ⟨_, same⟩ := Option.ite_none_left_eq_some.mp found
      cases same
      rfl
  · obtain ⟨_, same⟩ := Option.ite_none_left_eq_some.mp found
    cases same
    rfl

variable {options : CompareOptions}

theorem compare_withoutValues_object {members found : List (String × Value)}
    (counted : options.disallowExtraFields = true → members.length = found.length)
    (same : ∀ name x y, (name, x) ∈ members → (name, y) ∈ found →
      compare options.withoutValues x y =
        (compare options.withValues x y).filter Mismatch.isOfStructure) :
    compare options.withoutValues (.object members) (.object found) =
      (compare options.withValues (.object members) (.object found)).filter
        Mismatch.isOfStructure := by
  rw [@compare_object options.withoutValues _ _ counted,
    @compare_object options.withValues _ _ counted, List.filter_flatMap]
  refine List.flatMap_congr fun ⟨name, x⟩ member => ?_
  cases present : found.lookup name with
  | none =>
      rw [compareMember_of_lookup_eq_none x present, compareMember_of_lookup_eq_none x present]
      rfl
  | some y =>
      rw [compareMember_of_lookup_eq_some x present, compareMember_of_lookup_eq_some x present,
        filter_map_within, same name x y member (Keyed.mem_of_lookup present)]

/-- To ignore values is to leave out the mismatches of values and to report all others, in the same
order and at the same places. -/
theorem compare_withoutValues (options : CompareOptions) (expected actual : Value) :
    compare options.withoutValues expected actual =
      (compare options.withValues expected actual).filter Mismatch.isOfStructure := by
  induction expected, actual using inductionOnComparison options with
  | kinds expected actual differ =>
      rw [compare_of_kind_ne differ, compare_of_kind_ne differ]
      rfl
  | scalars expected actual scalar kinds =>
      rw [compare_scalar scalar kinds, compare_scalar scalar kinds]
      cases found : scalarDifference? expected actual with
      | none => rfl
      | some difference =>
          have ofValues := isOfValues_of_scalarDifference? found
          simp [CompareOptions.withoutValues, CompareOptions.withValues, Mismatch.isOfStructure,
            ofValues]
  | lengths items found differ =>
      rw [compare_array_of_length_ne differ, compare_array_of_length_ne differ]
      rfl
  | arrays items found same ih =>
      rw [compare_array same, compare_array same, List.filter_flatMap]
      -- whether values count has no say in the order of items
      refine List.flatMap_congr fun pair member => ?_
      obtain ⟨xMember, yMember⟩ := options.withoutValues.mem_of_mem_arrange member
      rw [filter_map_within, ih pair.1.1 xMember pair.1.2 yMember]
  | counts members found strict differ =>
      rw [@compare_object_of_length_ne options.withoutValues _ _ strict differ,
        @compare_object_of_length_ne options.withValues _ _ strict differ]
      rfl
  | objects members found counted ih => exact compare_withoutValues_object counted ih

end ApiMock
