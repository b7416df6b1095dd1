import ApiMock.Compare.Document
import ApiMock.Proofs.Compare.Canonical

/-!
# The descent of a comparison

What a comparison finds at a place is what it finds at the root, moved to that place. From this the
mismatches of two documents are those of their items or members, each moved behind its step, with
one equation for each kind of value. Proofs about comparisons start from these equations.
-/

set_option autoImplicit false

namespace ApiMock

open List (Forall₂)

/-- A mismatch in a part of a document, as a mismatch of the document. -/
def Mismatch.within (outer : Location) (mismatch : Mismatch) : Mismatch :=
  ⟨outer ++ mismatch.location, mismatch.difference⟩

theorem Mismatch.map_within_within (outer inner : Location) (mismatches : List Mismatch) :
    (mismatches.map (within inner)).map (within outer) =
      mismatches.map (within (outer ++ inner)) := by
  rw [List.map_map]
  refine List.map_congr_left fun mismatch _ => ?_
  simp only [Function.comp_apply, within, List.append_assoc]

/-- The items of an array in the order in which they are compared. -/
def CompareOptions.arrange (options : CompareOptions) (items : List Value) : List Value :=
  if options.ignoreArrayOrder then Value.sortByCanonical items else items

/-- The same options, with arrays compared item by item. -/
def CompareOptions.ordered (options : CompareOptions) : CompareOptions :=
  { options with ignoreArrayOrder := false }

/-- The same options, with arrays compared as multisets. -/
def CompareOptions.unordered (options : CompareOptions) : CompareOptions :=
  { options with ignoreArrayOrder := true }

variable (options : CompareOptions)

theorem CompareOptions.arrange_perm (items : List Value) : (options.arrange items).Perm items := by
  unfold arrange
  split
  · exact Value.sortByCanonical_perm items
  · exact .refl items

theorem CompareOptions.mem_of_mem_arrange {items found : List Value}
    {pair : (Value × Value) × Nat}
    (member : pair ∈ ((options.arrange items).zip (options.arrange found)).zipIdx) :
    pair.1.1 ∈ items ∧ pair.1.2 ∈ found := by
  obtain ⟨left, right⟩ := List.of_mem_zip (List.fst_mem_of_mem_zipIdx member)
  exact ⟨(options.arrange_perm items).mem_iff.mp left, (options.arrange_perm found).mem_iff.mp right⟩

/-! ## Unfolding at a place -/

theorem itemComparisons_eq_map (items : List Value) :
    itemComparisons options items = items.map fun item => (item.canonical, compareAt options item) := by
  induction items with
  | nil => rw [itemComparisons, List.map_nil]
  | cons item rest ih => rw [itemComparisons, ih, List.map_cons]

theorem compareItems_map (location : Location) (index : Nat) (expected actual : List Value) :
    compareItems location index (expected.map (compareAt options)) actual =
      ((expected.zip actual).zipIdx index).flatMap fun pair =>
        compareAt options pair.1.1 (location ++ [.item pair.2]) pair.1.2 := by
  induction expected generalizing index actual with
  | nil => rw [List.map_nil, compareItems]; rfl; nofun
  | cons item rest ih =>
      cases actual with
      | nil => rw [compareItems]; rfl; nofun
      | cons found others => rw [List.map_cons, compareItems, ih]; rfl

theorem compareAt_array {expected actual : List Value} (location : Location)
    (same : expected.length = actual.length) :
    compareAt options (.array expected) location (.array actual) =
      (((options.arrange expected).zip (options.arrange actual)).zipIdx).flatMap fun pair =>
        compareAt options pair.1.1 (location ++ [.item pair.2]) pair.1.2 := by
  simp only [compareAt, same, ne_eq, not_true_eq_false, if_false, itemComparisons_eq_map,
    Value.sortLabelled_map_canonical, List.map_map, ← compareItems_map, CompareOptions.arrange]
  split <;> rfl

/-- What a comparison says about the member of an expected object. -/
def compareMember (location : Location) (actual : List (String × Value))
    (member : String × Value) : List Mismatch :=
  match actual.lookup member.1 with
  | none => [⟨location, .missingKey member.1⟩]
  | some found => compareAt options member.2 (location ++ [.member member.1]) found

theorem compareMembers_eq_flatMap (expected : List (String × Value)) (location : Location)
    (actual : List (String × Value)) :
    compareMembers options expected location actual =
      expected.flatMap (compareMember options location actual) := by
  induction expected with
  | nil => rw [compareMembers, List.flatMap_nil]
  | cons member rest ih => rw [compareMembers, ih, List.flatMap_cons]; rfl

theorem compareAt_object {expected actual : List (String × Value)} (location : Location)
    (counted : options.disallowExtraFields = true → expected.length = actual.length) :
    compareAt options (.object expected) location (.object actual) =
      expected.flatMap (compareMember options location actual) := by
  have passes : ¬ (options.disallowExtraFields = true ∧ expected.length ≠ actual.length) :=
    fun ⟨strict, differ⟩ => differ (counted strict)
  simp only [compareAt, if_neg passes, compareMembers_eq_flatMap]

theorem compareAt_scalar {expected : Value} (scalar : expected.IsScalar) (location : Location)
    (actual : Value) :
    compareAt options expected location actual =
      if expected.kind ≠ actual.kind then [⟨location, .kinds expected.kind actual.kind⟩]
      else if options.ignoreValues then []
      else ((scalarDifference? expected actual).map (Mismatch.mk location)).toList := by
  cases expected with
  | array => exact scalar.elim
  | object => exact scalar.elim
  | _ => simp only [compareAt]

theorem compareAt_of_kind_ne {expected actual : Value} (location : Location)
    (differ : expected.kind ≠ actual.kind) :
    compareAt options expected location actual =
      [⟨location, .kinds expected.kind actual.kind⟩] := by
  cases expected with
  | array =>
      cases actual with
      | array => exact absurd rfl differ
      | _ => simp only [compareAt]; rfl
  | object =>
      cases actual with
      | object => exact absurd rfl differ
      | _ => simp only [compareAt]; rfl
  | _ => exact (compareAt_scalar options (by trivial) location actual).trans (if_pos differ)

theorem compareAt_array_of_length_ne {expected actual : List Value} (location : Location)
    (differ : expected.length ≠ actual.length) :
    compareAt options (.array expected) location (.array actual) =
      [⟨location, .arrayLengths expected.length actual.length⟩] := by
  simp only [compareAt, if_pos differ]

theorem compareAt_object_of_length_ne {expected actual : List (String × Value)}
    (location : Location) (strict : options.disallowExtraFields = true)
    (differ : expected.length ≠ actual.length) :
    compareAt options (.object expected) location (.object actual) =
      [⟨location, .mapLengths expected.length actual.length⟩] := by
  simp only [compareAt, if_pos (And.intro strict differ)]

/-! ## Moving to the root -/

theorem within_singleton (location : Location) (difference : Difference) :
    [Mismatch.mk [] difference].map (Mismatch.within location) = [⟨location, difference⟩] := by
  simp only [List.map_cons, List.map_nil, Mismatch.within, List.append_nil]

theorem compareAt_within_of_kind_ne {expected actual : Value} (location : Location)
    (differ : expected.kind ≠ actual.kind) :
    compareAt options expected location actual =
      (compareAt options expected [] actual).map (Mismatch.within location) := by
  rw [compareAt_of_kind_ne options location differ, compareAt_of_kind_ne options [] differ,
    within_singleton]

/-- What is found at a place is what is found at the root, moved to that place. -/
theorem compareAt_eq_within (expected : Value) (location : Location) (actual : Value) :
    compareAt options expected location actual =
      (compare options expected actual).map (Mismatch.within location) := by
  unfold compare
  induction expected generalizing location actual with
  | array items ih =>
      cases actual with
      | array found =>
          by_cases lengths : items.length = found.length
          · rw [compareAt_array options location lengths, compareAt_array options [] lengths,
              List.map_flatMap]
            refine List.flatMap_congr fun pair member => ?_
            have inside : pair.1.1 ∈ items :=
              (options.arrange_perm items).mem_iff.mp
                (List.of_mem_zip (List.fst_mem_of_mem_zipIdx member)).1
            rw [ih _ inside, ih _ inside ([] ++ _), Mismatch.map_within_within, List.nil_append]
          · rw [compareAt_array_of_length_ne options location lengths,
              compareAt_array_of_length_ne options [] lengths, within_singleton]
      | _ => exact compareAt_within_of_kind_ne options location nofun
  | object members ih =>
      cases actual with
      | object found =>
          by_cases counted : options.disallowExtraFields = true → members.length = found.length
          · rw [compareAt_object options location counted, compareAt_object options [] counted,
              List.map_flatMap]
            refine List.flatMap_congr fun member inside => ?_
            unfold compareMember
            split
            · exact (within_singleton location _).symm
            · rw [ih _ _ inside, ih _ _ inside ([] ++ _), Mismatch.map_within_within,
                List.nil_append]
          · obtain ⟨strict, differ⟩ := Classical.not_imp.mp counted
            rw [compareAt_object_of_length_ne options location strict differ,
              compareAt_object_of_length_ne options [] strict differ, within_singleton]
      | _ => exact compareAt_within_of_kind_ne options location nofun
  | _ =>
      rw [compareAt_scalar options (by trivial) location, compareAt_scalar options (by trivial) []]
      split
      · exact (within_singleton location _).symm
      · split
        · rfl
        · cases scalarDifference? _ actual with
          | none => rfl
          | some difference => exact (within_singleton location difference).symm

/-! ## Equations at the root -/

variable {options}

theorem compare_of_kind_ne {expected actual : Value} (differ : expected.kind ≠ actual.kind) :
    compare options expected actual = [⟨[], .kinds expected.kind actual.kind⟩] :=
  compareAt_of_kind_ne options [] differ

theorem compare_scalar {expected actual : Value} (scalar : expected.IsScalar)
    (same : expected.kind = actual.kind) :
    compare options expected actual =
      if options.ignoreValues then []
      else ((scalarDifference? expected actual).map (Mismatch.mk [])).toList :=
  (compareAt_scalar options scalar [] actual).trans (if_neg (not_not_intro same))

theorem compare_array_of_length_ne {expected actual : List Value}
    (differ : expected.length ≠ actual.length) :
    compare options (.array expected) (.array actual) =
      [⟨[], .arrayLengths expected.length actual.length⟩] :=
  compareAt_array_of_length_ne options [] differ

/-- The mismatches of arrays are those of the items, each behind its index. -/
theorem compare_array {expected actual : List Value} (same : expected.length = actual.length) :
    compare options (.array expected) (.array actual) =
      ((options.arrange expected).zip (options.arrange actual)).zipIdx.flatMap fun pair =>
        (compare options pair.1.1 pair.1.2).map (Mismatch.within [.item pair.2]) := by
  refine (compareAt_array options [] same).trans ?_
  exact List.flatMap_congr fun pair _ => compareAt_eq_within options _ _ _

theorem compare_object_of_length_ne {expected actual : List (String × Value)}
    (strict : options.disallowExtraFields = true) (differ : expected.length ≠ actual.length) :
    compare options (.object expected) (.object actual) =
      [⟨[], .mapLengths expected.length actual.length⟩] :=
  compareAt_object_of_length_ne options [] strict differ

/-- The mismatches of objects are those of the expected members, each behind its name. -/
theorem compare_object {expected actual : List (String × Value)}
    (counted : options.disallowExtraFields = true → expected.length = actual.length) :
    compare options (.object expected) (.object actual) =
      expected.flatMap (compareMember options [] actual) :=
  compareAt_object options [] counted

theorem compareMember_of_lookup_eq_none {actual : List (String × Value)} {name : String}
    (expected : Value) (missing : actual.lookup name = none) :
    compareMember options [] actual (name, expected) = [⟨[], .missingKey name⟩] := by
  simp only [compareMember, missing]

theorem compareMember_of_lookup_eq_some {actual : List (String × Value)} {name : String}
    (expected : Value) {found : Value} (present : actual.lookup name = some found) :
    compareMember options [] actual (name, expected) =
      (compare options expected found).map (Mismatch.within [.member name]) := by
  simp only [compareMember, present, List.nil_append, compareAt_eq_within]

/-- Induction along a comparison, with one case for each equation. -/
theorem inductionOnComparison (options : CompareOptions) {motive : Value → Value → Prop}
    (kinds : ∀ expected actual : Value, expected.kind ≠ actual.kind → motive expected actual)
    (scalars : ∀ expected actual : Value, expected.IsScalar → expected.kind = actual.kind →
      motive expected actual)
    (lengths : ∀ items found : List Value, items.length ≠ found.length →
      motive (.array items) (.array found))
    (arrays : ∀ items found : List Value, items.length = found.length →
      (∀ x ∈ items, ∀ y ∈ found, motive x y) → motive (.array items) (.array found))
    (counts : ∀ members found : List (String × Value), options.disallowExtraFields = true →
      members.length ≠ found.length → motive (.object members) (.object found))
    (objects : ∀ members found : List (String × Value),
      (options.disallowExtraFields = true → members.length = found.length) →
      (∀ name x y, (name, x) ∈ members → (name, y) ∈ found → motive x y) →
      motive (.object members) (.object found))
    (expected actual : Value) : motive expected actual := by
  have ends : ∀ value other : Value, value.IsScalar → motive value other := by
    intro value other scalar
    by_cases same : value.kind = other.kind
    · exact scalars value other scalar same
    · exact kinds value other same
  induction expected generalizing actual with
  | array items ih =>
      cases actual with
      | array found =>
          by_cases same : items.length = found.length
          · exact arrays items found same fun x member y _ => ih x member y
          · exact lengths items found same
      | _ => exact kinds _ _ nofun
  | object members ih =>
      cases actual with
      | object found =>
          by_cases counted : options.disallowExtraFields = true → members.length = found.length
          · exact objects members found counted fun name x y member _ => ih name x member y
          · obtain ⟨strict, differ⟩ := Classical.not_imp.mp counted
            exact counts members found strict differ
      | _ => exact kinds _ _ nofun
  | _ => exact ends _ actual (by trivial)

/-! ## Passing comparisons -/

theorem kind_eq_of_compare_eq_nil {expected actual : Value}
    (passed : compare options expected actual = []) : expected.kind = actual.kind := by
  by_contra differ
  rw [compare_of_kind_ne differ] at passed
  cases passed

theorem compare_array_eq_nil_iff {expected actual : List Value} :
    compare options (.array expected) (.array actual) = [] ↔
      Forall₂ (fun x y => compare options x y = [])
        (options.arrange expected) (options.arrange actual) := by
  rw [List.forall₂_iff_zip, (options.arrange_perm expected).length_eq,
    (options.arrange_perm actual).length_eq]
  by_cases lengths : expected.length = actual.length
  · rw [compare_array lengths, List.flatMap_eq_nil_iff]
    simp only [List.map_eq_nil_iff, lengths, true_and]
    constructor
    · intro all x y inside
      obtain ⟨index, found⟩ := List.mem_iff_getElem?.mp inside
      exact all ((x, y), index) (List.mk_mem_zipIdx_iff_getElem?.mpr found)
    · exact fun all pair inside => all (List.fst_mem_of_mem_zipIdx inside)
  · rw [compare_array_of_length_ne lengths]
    exact iff_of_false nofun fun both => lengths both.1

theorem compare_object_eq_nil_iff {expected actual : List (String × Value)} :
    compare options (.object expected) (.object actual) = [] ↔
      (options.disallowExtraFields = true → expected.length = actual.length) ∧
        ∀ name x, (name, x) ∈ expected →
          ∃ y, actual.lookup name = some y ∧ compare options x y = [] := by
  by_cases counted : options.disallowExtraFields = true → expected.length = actual.length
  · rw [compare_object counted, List.flatMap_eq_nil_iff, Prod.forall, and_iff_right counted]
    refine forall₃_congr fun name x member => ?_
    cases present : actual.lookup name with
    | none => simp [compareMember_of_lookup_eq_none x present]
    | some y => simp [compareMember_of_lookup_eq_some x present]
  · obtain ⟨strict, differ⟩ := Classical.not_imp.mp counted
    rw [compare_object_of_length_ne strict differ]
    exact iff_of_false nofun fun both => counted both.1

end ApiMock
