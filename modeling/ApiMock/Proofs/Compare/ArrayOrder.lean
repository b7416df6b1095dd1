import ApiMock.Proofs.Compare.Descent
import ApiMock.Proofs.Keyed.Lookup

/-!
# Comparisons without regard to the order of arrays

A comparison that ignores the order of arrays sorts both sides at every depth. It passes only
documents that some rearrangement would pass in order, and its report does not depend on the order
of items as long as items that sort alike are interchangeable.
-/

set_option autoImplicit false

namespace ApiMock

open List (Forall₂)
open Value (DeepPerm)

variable {options : CompareOptions}

/-! ## Rearranging what passed -/

theorem compare_ordered_of_isScalar {expected : Value} (scalar : expected.IsScalar)
    (actual : Value) :
    compare options.ordered expected actual = compare options.unordered expected actual := by
  by_cases kinds : expected.kind = actual.kind
  · rw [compare_scalar scalar kinds, compare_scalar scalar kinds]
    rfl
  · rw [compare_of_kind_ne kinds, compare_of_kind_ne kinds]

theorem compare_unordered_pair (x y u v : Value) :
    compare options.unordered (.array [x, y]) (.array [u, v]) =
      ((if x.canonical ≤ y.canonical then [x, y] else [y, x]).zip
        (if u.canonical ≤ v.canonical then [u, v] else [v, u])).zipIdx.flatMap fun pair =>
          (compare options.unordered pair.1.1 pair.1.2).map (Mismatch.within [.item pair.2]) := by
  rw [← Value.sortByCanonical_pair, ← Value.sortByCanonical_pair]
  exact compare_array rfl

/-- Sorted arrays that agree place by place come from arrays of which one can be put into the order
of the other. -/
theorem exists_rearranged_items {expected actual : List Value} {agrees : Value → Value → Prop}
    (sorted : Forall₂ (fun x y => ∃ z, DeepPerm y z ∧ agrees x z)
      (Value.sortByCanonical expected) (Value.sortByCanonical actual)) :
    ∃ rearranged, DeepPerm (.array actual) (.array rearranged) ∧
      Forall₂ agrees expected rearranged := by
  obtain ⟨partners, agreeing, perm⟩ :=
    List.perm_comp_forall₂ (Value.sortByCanonical_perm expected).symm sorted
  obtain ⟨rearranged, changes, agrees⟩ := Value.forall₂_exists agreeing
  have perm := (perm.trans (Value.sortByCanonical_perm actual)).symm
  exact ⟨rearranged, .array_of_perm perm changes, agrees⟩

/-- The values of an object can be rearranged one by one, each for the only expected member with its
name; members that nothing is expected of stay as they are. -/
theorem exists_rearranged_members {expected actual : List (String × Value)}
    {agrees : Value → Value → Prop} (ascending : Keyed.Ascending expected)
    (passed : ∀ name x, (name, x) ∈ expected →
      ∃ y, actual.lookup name = some y ∧ ∃ z, DeepPerm y z ∧ agrees x z) :
    ∃ rearranged, DeepPerm (.object actual) (.object rearranged) ∧
      rearranged.length = actual.length ∧
      ∀ name x, (name, x) ∈ expected → ∃ z, rearranged.lookup name = some z ∧ agrees x z := by
  have each : ∀ name y, ∃ z, DeepPerm y z ∧
      ∀ x, (name, x) ∈ expected → actual.lookup name = some y → agrees x z := by
    intro name y
    by_cases asked : ∃ x, (name, x) ∈ expected ∧ actual.lookup name = some y
    · obtain ⟨x, member, present⟩ := asked
      obtain ⟨found, same, z, perm, agree⟩ := passed name x member
      obtain rfl : found = y := Option.some.inj (same.symm.trans present)
      refine ⟨z, perm, fun other otherMember _ => ?_⟩
      have once := ascending.lookup_eq_some member
      rw [ascending.lookup_eq_some otherMember] at once
      exact Option.some.inj once ▸ agree
    · exact ⟨y, .refl y, fun x member present => absurd ⟨x, member, present⟩ asked⟩
  choose change perm agree using each
  refine ⟨actual.map fun member => (member.1, change member.1 member.2), ?_, by simp, ?_⟩
  · rw [Value.deepPerm_object_iff, List.forall₂_map_right_iff, List.forall₂_same]
    exact fun member _ => ⟨rfl, perm _ _⟩
  · intro name x member
    obtain ⟨y, present, _⟩ := passed name x member
    refine ⟨change name y, ?_, agree name y x member present⟩
    rw [Keyed.lookup_map_values, present, Option.map_some]

/-- A comparison that ignores the order of arrays passes no document that could not be rearranged
so as to pass in order. -/
theorem exists_deepPerm_compare_ordered_eq_nil {expected actual : Value}
    (wellFormed : expected.WellFormed) (passed : compare options.unordered expected actual = []) :
    ∃ rearranged, DeepPerm actual rearranged ∧
      compare options.ordered expected rearranged = [] := by
  induction expected generalizing actual with
  | array items ih =>
      cases actual with
      | array found =>
          rw [compare_array_eq_nil_iff] at passed
          have sorted := (Value.forall₂_mem passed).imp fun x y ⟨member, _, passed⟩ =>
            have inside := (Value.sortByCanonical_perm items).mem_iff.mp member
            ih x inside (wellFormed.item inside) passed
          obtain ⟨rearranged, perm, agrees⟩ := exists_rearranged_items sorted
          exact ⟨.array rearranged, perm, compare_array_eq_nil_iff.mpr agrees⟩
      | _ => cases kind_eq_of_compare_eq_nil passed
  | object members ih =>
      cases actual with
      | object found =>
          obtain ⟨counted, each⟩ := compare_object_eq_nil_iff.mp passed
          have partners : ∀ name x, (name, x) ∈ members → ∃ y, found.lookup name = some y ∧
              ∃ z, DeepPerm y z ∧ compare options.ordered x z = [] := by
            intro name x member
            obtain ⟨y, present, passed⟩ := each name x member
            exact ⟨y, present, ih name x member (wellFormed.value member) passed⟩
          obtain ⟨rearranged, perm, lengths, agrees⟩ :=
            exists_rearranged_members wellFormed.names partners
          refine ⟨.object rearranged, perm, compare_object_eq_nil_iff.mpr ⟨?_, agrees⟩⟩
          exact fun strict => (counted strict).trans lengths.symm
      | _ => cases kind_eq_of_compare_eq_nil passed
  | _ =>
      exact ⟨actual, .refl actual, (compare_ordered_of_isScalar (by trivial) actual).trans passed⟩

theorem exists_deepPerm_of_directive :
    ∃ rearranged, DeepPerm (.array [.string "a", .string "0b"]) rearranged ∧
      compare (CompareOptions.ordered {}) (.array [.string "$matchRegexp(b)", .string "a"])
        rearranged = [] := by
  refine exists_deepPerm_compare_ordered_eq_nil (by decide) ?_
  rw [compare_unordered_pair]
  decide +kernel

/-! ## Independence of the order of items -/

theorem isScalar_of_kind_eq {first second : Value} (scalar : first.IsScalar)
    (same : first.kind = second.kind) : second.IsScalar := by
  cases second with
  | array => cases first <;> first | exact scalar | cases same
  | object => cases first <;> first | exact scalar | cases same
  | _ => trivial

theorem deepPerm_eq_of_isScalar {old new : Value} (scalar : old.IsScalar)
    (perm : DeepPerm old new) : new = old := by
  cases perm with
  | array => exact scalar.elim
  | object => exact scalar.elim
  | _ => rfl

theorem lookup_of_memberPerm {members changed : List (String × Value)}
    (entries : Forall₂ Value.MemberPerm members changed) (name : String) :
    Option.Rel DeepPerm (members.lookup name) (changed.lookup name) := by
  induction entries with
  | nil => exact .none
  | @cons old new _ _ first _ ih =>
      obtain ⟨same, perm⟩ := first
      rw [List.lookup_cons, List.lookup_cons, ← same]
      split
      · exact .some perm
      · exact ih

theorem flatMap_zip_congr {before after befores afters : List Value} (index : Nat)
    (report : Value → Value → Nat → List Mismatch) (lefts : Forall₂ DeepPerm before after)
    (rights : Forall₂ DeepPerm befores afters)
    (same : ∀ x ∈ before, ∀ y ∈ befores, ∀ x' y', DeepPerm x x' → DeepPerm y y' →
      report x' y' = report x y) :
    ((after.zip afters).zipIdx index).flatMap (fun pair => report pair.1.1 pair.1.2 pair.2) =
      ((before.zip befores).zipIdx index).flatMap fun pair => report pair.1.1 pair.1.2 pair.2 := by
  induction lefts generalizing index befores afters with
  | nil => rfl
  | cons left _ ih =>
      cases rights with
      | nil => rfl
      | cons right rights =>
          simp only [List.zip_cons_cons, List.zipIdx_cons, List.flatMap_cons]
          rw [same _ List.mem_cons_self _ List.mem_cons_self _ _ left right]
          rw [ih (index + 1) rights fun x xMember y yMember =>
            same x (List.mem_cons_of_mem _ xMember) y (List.mem_cons_of_mem _ yMember)]

theorem compare_eq_of_deepPerm_of_kind_ne {expected expected' actual actual' : Value}
    (differ : expected.kind ≠ actual.kind) (expectedPerm : DeepPerm expected expected')
    (actualPerm : DeepPerm actual actual') :
    compare options expected' actual' = compare options expected actual := by
  rw [compare_of_kind_ne differ, compare_of_kind_ne, expectedPerm.kind_eq, actualPerm.kind_eq]
  rwa [expectedPerm.kind_eq, actualPerm.kind_eq]

theorem compare_eq_of_deepPerm_of_isScalar {expected expected' actual actual' : Value}
    (scalar : expected.IsScalar) (expectedPerm : DeepPerm expected expected')
    (actualPerm : DeepPerm actual actual') :
    compare options expected' actual' = compare options expected actual := by
  by_cases kinds : expected.kind = actual.kind
  · rw [deepPerm_eq_of_isScalar scalar expectedPerm,
      deepPerm_eq_of_isScalar (isScalar_of_kind_eq scalar kinds) actualPerm]
  · exact compare_eq_of_deepPerm_of_kind_ne kinds expectedPerm actualPerm

theorem compare_array_eq_of_deepPerm (ignored : options.ignoreArrayOrder = true)
    {items items' found found' : List Value}
    (itemTies : Value.TiesAgree (.array items)) (foundTies : Value.TiesAgree (.array found))
    (itemsPerm : DeepPerm (.array items) (.array items'))
    (foundPerm : DeepPerm (.array found) (.array found'))
    (same : ∀ x ∈ items, ∀ y ∈ found, ∀ x' y', DeepPerm x x' → DeepPerm y y' →
      compare options x' y' = compare options x y) :
    compare options (.array items') (.array found') =
      compare options (.array items) (.array found) := by
  have itemsLength := itemsPerm.length_items
  have foundLength := foundPerm.length_items
  by_cases lengths : items.length = found.length
  · rw [compare_array lengths, compare_array (by omega)]
    simp only [CompareOptions.arrange, ignored, if_true]
    refine flatMap_zip_congr 0
      (fun x y index => (compare options x y).map (.within [.item index]))
      (Value.forall₂_sortByCanonical itemTies itemsPerm)
      (Value.forall₂_sortByCanonical foundTies foundPerm) ?_
    intro x xMember y yMember x' y' left right
    have xInside := (Value.sortByCanonical_perm items).mem_iff.mp xMember
    have yInside := (Value.sortByCanonical_perm found).mem_iff.mp yMember
    rw [same x xInside y yInside x' y' left right]
  · rw [compare_array_of_length_ne lengths, compare_array_of_length_ne (by omega), itemsLength,
      foundLength]

theorem compareMember_eq_of_deepPerm {found found' : List (String × Value)}
    (entries : Forall₂ Value.MemberPerm found found') {name : String} {x x' : Value}
    (same : ∀ y y', (name, y) ∈ found → DeepPerm y y' → compare options x' y' = compare options x y) :
    compareMember options [] found' (name, x') = compareMember options [] found (name, x) := by
  have related := lookup_of_memberPerm entries name
  cases present : found.lookup name with
  | none =>
      rw [present] at related
      cases missing : found'.lookup name with
      | none =>
          rw [compareMember_of_lookup_eq_none x present, compareMember_of_lookup_eq_none x' missing]
      | some => rw [missing] at related; cases related
  | some y =>
      rw [present] at related
      cases changed : found'.lookup name with
      | none => rw [changed] at related; cases related
      | some y' =>
          rw [changed] at related
          cases related with
          | some perm =>
              rw [compareMember_of_lookup_eq_some x present,
                compareMember_of_lookup_eq_some x' changed,
                same y y' (Keyed.mem_of_lookup present) perm]

theorem compare_object_eq_of_deepPerm {members members' found found' : List (String × Value)}
    (membersPerm : DeepPerm (.object members) (.object members'))
    (foundPerm : DeepPerm (.object found) (.object found'))
    (same : ∀ name x, (name, x) ∈ members → ∀ y, (name, y) ∈ found → ∀ x' y', DeepPerm x x' →
      DeepPerm y y' → compare options x' y' = compare options x y) :
    compare options (.object members') (.object found') =
      compare options (.object members) (.object found) := by
  have membersLength := membersPerm.length_members
  have foundLength := foundPerm.length_members
  by_cases counted : options.disallowExtraFields = true → members.length = found.length
  · rw [compare_object counted, compare_object fun strict => by have := counted strict; omega]
    have entries := Value.deepPerm_object_iff.mp membersPerm
    rw [List.flatMap, List.flatMap, Value.map_eq_of_forall₂ entries]
    rintro ⟨name, x⟩ member ⟨_, x'⟩ ⟨rfl, left⟩
    refine compareMember_eq_of_deepPerm (Value.deepPerm_object_iff.mp foundPerm) ?_
    exact fun y y' present right => same name x member y present x' y' left right
  · obtain ⟨strict, differ⟩ := Classical.not_imp.mp counted
    rw [compare_object_of_length_ne strict differ, compare_object_of_length_ne strict (by omega),
      membersLength, foundLength]

/-- A comparison that ignores the order of arrays reports the same mismatches, at the same places,
whatever the order of items in both documents. -/
theorem compare_eq_of_deepPerm (ignored : options.ignoreArrayOrder = true)
    {expected expected' actual actual' : Value}
    (expectedTies : expected.TiesInterchangeable) (actualTies : actual.TiesInterchangeable)
    (expectedPerm : DeepPerm expected expected') (actualPerm : DeepPerm actual actual') :
    compare options expected' actual' = compare options expected actual := by
  induction expected generalizing expected' actual actual' with
  | array items ih =>
      cases actual with
      | array found =>
          obtain ⟨ties, itemTies⟩ := Value.tiesInterchangeable_array_iff.mp expectedTies
          obtain ⟨foundTies, foundItemTies⟩ := Value.tiesInterchangeable_array_iff.mp actualTies
          -- permuted arrays are arrays; the permutations themselves are still needed
          cases id expectedPerm
          cases id actualPerm
          refine compare_array_eq_of_deepPerm ignored ties foundTies expectedPerm actualPerm ?_
          exact fun x member y inside _ _ left right =>
            ih x member (itemTies x member) (foundItemTies y inside) left right
      | _ => exact compare_eq_of_deepPerm_of_kind_ne nofun expectedPerm actualPerm
  | object members ih =>
      cases actual with
      | object found =>
          have memberTies := Value.tiesInterchangeable_object_iff.mp expectedTies
          have foundTies := Value.tiesInterchangeable_object_iff.mp actualTies
          cases id expectedPerm
          cases id actualPerm
          refine compare_object_eq_of_deepPerm expectedPerm actualPerm ?_
          exact fun name x member y inside _ _ left right =>
            ih name x member (memberTies name x member) (foundTies name y inside) left right
      | _ => exact compare_eq_of_deepPerm_of_kind_ne nofun expectedPerm actualPerm
  | _ => exact compare_eq_of_deepPerm_of_isScalar (by trivial) expectedPerm actualPerm

theorem compare_eq_of_swapped_items :
    compare (CompareOptions.unordered {})
        (.object [("k", .array [.string "a", .string "$matchRegexp(b)"])])
        (.object [("k", .array [.string "c", .string "a"]), ("z", .null)]) =
      compare (CompareOptions.unordered {})
        (.object [("k", .array [.string "$matchRegexp(b)", .string "a"])])
        (.object [("k", .array [.string "a", .string "c"]), ("z", .null)]) := by
  have swapped (x y : Value) : DeepPerm (.array [x, y]) (.array [y, x]) :=
    .array (List.forall₂_same.mpr fun item _ => .refl item) (.swap y x [])
  refine compare_eq_of_deepPerm rfl ?_ ?_
    (.object rfl (.cons (swapped _ _) .nil)) (.object rfl (.cons (swapped _ _) (.cons .null .nil)))
  · refine Value.tiesInterchangeable_object_iff.mpr fun name value member => ?_
    cases List.mem_singleton.mp member
    exact .of_texts ["$matchRegexp(b)", "a"]
  · refine Value.tiesInterchangeable_object_iff.mpr fun name value member => ?_
    rcases List.mem_pair.mp member with same | same
    · cases same
      exact .of_texts ["a", "c"]
    · cases same
      exact .of_isScalar trivial

end ApiMock
