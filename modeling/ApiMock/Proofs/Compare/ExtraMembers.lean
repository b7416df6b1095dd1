import ApiMock.Proofs.Compare.Relaxation
import ApiMock.Proofs.Compare.Report

/-!
# Members that are not expected

A comparison looks up the members of an actual object by the names that are expected there. Where
extra members are tolerated, nothing else of the object is looked at, so that other members may come,
go and change. Where they are not, the number of members is compared first, and an object that passes
has the expected names and no others.
-/

set_option autoImplicit false

namespace ApiMock

/-! ## Changing what is not asked for -/

/-- Two actual values that differ at most in members whose names are not expected at their place.
Where nothing is expected, no name is. -/
inductive SameWhereAsked : Option Value → Value → Value → Prop where
  | same {asked value} : SameWhereAsked asked value value
  | array {asked first second} :
      first.length = second.length →
      (∀ index x y, first[index]? = some x → second[index]? = some y →
        SameWhereAsked (asked.bind (Value.child? (.item index))) x y) →
      SameWhereAsked asked (.array first) (.array second)
  | object {asked first second} :
      (∀ name expected, asked.bind (Value.child? (.member name)) = some expected →
        (name ∈ Keyed.keys first ↔ name ∈ Keyed.keys second)) →
      (∀ name expected x y, asked.bind (Value.child? (.member name)) = some expected →
        first.lookup name = some x → second.lookup name = some y →
        SameWhereAsked (some expected) x y) →
      SameWhereAsked asked (.object first) (.object second)

variable {options : CompareOptions} {expected actual : Value}

/-- Objects with the same entries for all names that are expected differ in other members only. -/
theorem SameWhereAsked.of_lookup {members first second : List (String × Value)}
    (same : ∀ name ∈ Keyed.keys members, first.lookup name = second.lookup name) :
    SameWhereAsked (some (.object members)) (.object first) (.object second) := by
  have asked {name : String} {expected : Value} (found : members.lookup name = some expected) :
      first.lookup name = second.lookup name :=
    same name (List.mem_map.mpr ⟨_, Keyed.mem_of_lookup found, rfl⟩)
  apply SameWhereAsked.object
  · intro name expected found
    rw [← not_iff_not, ← Keyed.lookup_eq_none_iff, ← Keyed.lookup_eq_none_iff, asked found]
  · intro name expected x y found left right
    cases left.symm.trans ((asked found).trans right)
    exact .same

theorem flatMap_zipIdx_congr {α β : Type} {firsts seconds : List α} {report : α × Nat → List β}
    (lengths : firsts.length = seconds.length)
    (same : ∀ (index : Nat) x y, firsts[index]? = some x → seconds[index]? = some y →
      report (x, index) = report (y, index)) :
    firsts.zipIdx.flatMap report = seconds.zipIdx.flatMap report := by
  have reports : firsts.zipIdx.map report = seconds.zipIdx.map report := by
    apply List.ext_getElem
    · simp only [List.length_map, List.length_zipIdx, lengths]
    · intro index left right
      simp only [List.length_map, List.length_zipIdx] at left right
      simp only [List.getElem_map, List.getElem_zipIdx, Nat.zero_add]
      apply same index
      · exact List.getElem?_eq_getElem left
      · exact List.getElem?_eq_getElem right
  rw [List.flatMap, List.flatMap, reports]

theorem compare_eq_of_kind_ne {first second : Value} (differ : expected.kind ≠ first.kind)
    (kinds : first.kind = second.kind) :
    compare options expected first = compare options expected second := by
  rw [compare_of_kind_ne differ, compare_of_kind_ne (kinds ▸ differ), kinds]

theorem compare_array_congr {items first second : List Value}
    (ordered : options.ignoreArrayOrder = false) (lengths : first.length = second.length)
    (each : ∀ (index : Nat) x y z, items[index]? = some x → first[index]? = some y →
      second[index]? = some z → compare options x y = compare options x z) :
    compare options (.array items) (.array first) =
      compare options (.array items) (.array second) := by
  by_cases counted : items.length = first.length
  · rw [compare_array counted, compare_array (counted.trans lengths), arrange_of_ordered ordered,
      arrange_of_ordered ordered, arrange_of_ordered ordered]
    apply flatMap_zipIdx_congr
    · rw [List.length_zip, List.length_zip, lengths]
    · intro index pair other left right
      obtain ⟨here, left⟩ := List.getElem?_zip_eq_some.mp left
      obtain ⟨again, right⟩ := List.getElem?_zip_eq_some.mp right
      have counterpart : pair.1 = other.1 := Option.some.inj (here.symm.trans again)
      rw [each index pair.1 pair.2 other.2 here left right, counterpart]
  · rw [compare_array_of_length_ne counted, compare_array_of_length_ne (lengths ▸ counted), lengths]

theorem compareMember_congr {first second : List (String × Value)} {name : String} {x : Value}
    (names : name ∈ Keyed.keys first ↔ name ∈ Keyed.keys second)
    (each : ∀ y z, first.lookup name = some y → second.lookup name = some z →
      compare options x y = compare options x z) :
    compareMember options [] first (name, x) = compareMember options [] second (name, x) := by
  rw [← not_iff_not, ← Keyed.lookup_eq_none_iff, ← Keyed.lookup_eq_none_iff] at names
  cases left : first.lookup name with
  | none =>
      have right := names.mp left
      rw [compareMember_of_lookup_eq_none x left, compareMember_of_lookup_eq_none x right]
  | some y =>
      cases right : second.lookup name with
      | none => cases (names.mpr right).symm.trans left
      | some z =>
          rw [compareMember_of_lookup_eq_some x left, compareMember_of_lookup_eq_some x right,
            each y z left right]

/-- A comparison that tolerates extra members does not see what happens to them. -/
theorem compare_eq_of_sameWhereAsked (ordered : options.ignoreArrayOrder = false)
    (tolerant : options.disallowExtraFields = false) (wellFormed : expected.WellFormed)
    {first second : Value} (same : SameWhereAsked (some expected) first second) :
    compare options expected first = compare options expected second := by
  have uncounted (members found : List (String × Value)) :
      options.disallowExtraFields = true → members.length = found.length := by
    intro strict
    cases tolerant.symm.trans strict
  generalize position : some expected = asked at same
  induction same generalizing expected with
  | same => rfl
  | array lengths _ ih =>
      subst position
      cases expected with
      | array items =>
          apply compare_array_congr ordered lengths
          intro index x y z here left right
          have inside : x ∈ items := List.mem_of_getElem? here
          exact ih index y z left right (wellFormed.item inside) here.symm
      | _ => exact compare_eq_of_kind_ne nofun rfl
  | object names _ ih =>
      subst position
      cases expected with
      | object members =>
          rw [compare_object (uncounted _ _), compare_object (uncounted _ _)]
          apply List.flatMap_congr
          intro member inside
          have asked := wellFormed.names.lookup_eq_some inside
          apply compareMember_congr (names member.1 member.2 asked)
          intro y z left right
          exact ih member.1 member.2 y z asked left right (wellFormed.value inside) rfl
      | _ => exact compare_eq_of_kind_ne nofun rfl

/-! ## Names of objects that pass -/

/-- The pairs of values that meet in a comparison: the two documents, and wherever the comparison
descends, the items that it puts side by side and the members with the same name. -/
inductive Meet (options : CompareOptions) : Value → Value → Value → Value → Prop where
  | root {x y} : Meet options x y x y
  | item {items found x y u v} :
      Descends options (.array items) (.array found) →
      (x, y) ∈ (options.arrange items).zip (options.arrange found) →
      Meet options x y u v → Meet options (.array items) (.array found) u v
  | member {members found name x y u v} :
      Descends options (.object members) (.object found) →
      (name, x) ∈ members → found.lookup name = some y →
      Meet options x y u v → Meet options (.object members) (.object found) u v

theorem Meet.passed {x y : Value} (meet : Meet options expected actual x y)
    (passed : compare options expected actual = []) : compare options x y = [] := by
  induction meet with
  | root => exact passed
  | item _ pair _ ih =>
      apply ih
      exact (List.forall₂_iff_zip.mp (compare_array_eq_nil_iff.mp passed)).2 pair
  | member _ asked present _ ih =>
      apply ih
      obtain ⟨found, same, passed⟩ := (compare_object_eq_nil_iff.mp passed).2 _ _ asked
      cases same.symm.trans present
      exact passed

theorem Meet.wellFormed {x y : Value} (meet : Meet options expected actual x y)
    (expectedWellFormed : expected.WellFormed) (actualWellFormed : actual.WellFormed) :
    x.WellFormed ∧ y.WellFormed := by
  induction meet with
  | root => exact ⟨expectedWellFormed, actualWellFormed⟩
  | item _ pair _ ih =>
      obtain ⟨left, right⟩ := List.of_mem_zip pair
      apply ih
      · exact expectedWellFormed.item ((options.arrange_perm _).mem_iff.mp left)
      · exact actualWellFormed.item ((options.arrange_perm _).mem_iff.mp right)
  | member _ asked present _ ih =>
      apply ih
      · exact expectedWellFormed.value asked
      · exact actualWellFormed.value (Keyed.mem_of_lookup present)

/-- Where extra members are tolerated, they may be added, removed and changed at every depth without
a change of the report. Where they are not, documents match only if all objects that meet have the
same names, whether or not the order of arrays counts. -/
theorem compare_extra_members (wellFormed : expected.WellFormed) :
    (options.ignoreArrayOrder = false → options.disallowExtraFields = false →
      ∀ first second, SameWhereAsked (some expected) first second →
        compare options expected first = compare options expected second) ∧
    (options.disallowExtraFields = true →
      ∀ actual, actual.WellFormed → compare options expected actual = [] →
        ∀ members found, Meet options expected actual (.object members) (.object found) →
          Keyed.keys members = Keyed.keys found) := by
  constructor
  · intro ordered tolerant first second same
    exact compare_eq_of_sameWhereAsked ordered tolerant wellFormed same
  · intro strict actual actualWellFormed passed members found meet
    obtain ⟨counted, each⟩ := compare_object_eq_nil_iff.mp (meet.passed passed)
    obtain ⟨left, right⟩ := meet.wellFormed wellFormed actualWellFormed
    exact keys_eq_of_passed left.names right.names (counted strict) each

theorem compare_extra_members_of_changed_items :
    let members : List (String × Value) := [("a", .bool true)]
    let found : List (String × Value) := [("a", .bool false)]
    let expected : Value := .object [("k", .array [.object members])]
    let first : Value :=
      .object [("k", .array [.object [("a", .null), ("b", .null)]]), ("l", .null)]
    let second : Value :=
      .object [("j", .null), ("k", .array [.object [("a", .null), ("b", .bool true)]])]
    let strict : CompareOptions := { ignoreValues := true, disallowExtraFields := true }
    let items : Value := .array [.object members, .null]
    let others : Value := .array [.null, .object found]
    SameWhereAsked (some expected) first second ∧
      compare {} expected first = compare {} expected second ∧
      compare strict.unordered items others = [] ∧
      Meet strict.unordered items others (.object members) (.object found) ∧
      Keyed.keys members = Keyed.keys found := by
  intro members found expected first second strict items others
  have same : SameWhereAsked (some expected) first second := by
    apply SameWhereAsked.object
    · intro name asked present
      obtain ⟨rfl, rfl⟩ := Prod.mk.inj (List.mem_singleton.mp (Keyed.mem_of_lookup present))
      decide
    · intro name asked x y present left right
      obtain ⟨rfl, rfl⟩ := Prod.mk.inj (List.mem_singleton.mp (Keyed.mem_of_lookup present))
      cases left
      cases right
      refine .array (by rfl) fun index x y left right => ?_
      cases index with
      | zero =>
          cases left
          cases right
          exact .of_lookup fun name member => by cases List.mem_singleton.mp member; rfl
      | succ => cases left
  have passed : compare strict.unordered items others = [] := by
    rw [compare_unordered_pair]
    decide +kernel
  have meet : Meet strict.unordered items others (.object members) (.object found) := by
    have left : strict.unordered.arrange [.object members, .null] = [.null, .object members] :=
      (Value.sortByCanonical_pair _ _).trans (if_neg (by decide +kernel))
    have right : strict.unordered.arrange [.null, .object found] = [.null, .object found] :=
      (Value.sortByCanonical_pair _ _).trans (if_pos (by decide +kernel))
    refine .item rfl ?_ .root
    rw [left, right]
    exact .tail _ (.head _)
  obtain ⟨unseen, _⟩ := @compare_extra_members {} expected (by decide)
  obtain ⟨_, names⟩ := @compare_extra_members strict.unordered items (by decide)
  exact ⟨same, unseen rfl rfl first second same, passed, meet,
    names rfl others (by decide) passed members found meet⟩

end ApiMock
