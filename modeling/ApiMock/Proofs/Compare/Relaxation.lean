import ApiMock.Proofs.Compare.ArrayOrder
import ApiMock.Proofs.Value.Place

/-!
# Documents that match in order

A match in order is also one without regard to the order of arrays where sorting keeps each item
together with its counterpart. It does when in each array counterparts have the same canonical string,
whatever strings collide. A directive, a value that is ignored, a member that is not expected or a
number in another spelling gives a counterpart a string of its own, and may separate the two. This
does no harm in arrays whose items all match each other.
-/

set_option autoImplicit false

namespace ApiMock

open List (Forall₂)
open Value (Facing)

variable {options : CompareOptions}

/-- Items of two arrays stand in the same canonical order, pair by pair. -/
def ItemsSortAlike : Value → Value → Prop
  | .array expected, .array actual => (expected.zip actual).Pairwise fun p q =>
      (p.1.canonical ≤ q.1.canonical ↔ p.2.canonical ≤ q.2.canonical)
  | _, _ => True

/-- Each item of one array matches each item of the other. -/
def ItemsInterchangeable (options : CompareOptions) : Value → Value → Prop
  | .array expected, .array actual =>
    ∀ x ∈ expected, ∀ y ∈ actual, compare options.unordered x y = []
  | _, _ => True

/-- The items of an array are scalars of one kind. -/
def HasItemsOfOneKind : Value → Prop
  | .array items => ∃ kind, ∀ x ∈ items, x.IsScalar ∧ x.kind = kind
  | _ => True

/-- Scalars have the same canonical string and objects the same number of members. -/
def SameText : Value → Value → Prop
  | .array _, .array _ => True
  | .object expected, .object actual => expected.length = actual.length
  | expected, actual => expected.canonical = actual.canonical

/-- All that is found inside of the items of two arrays has the same text. -/
def ItemsHaveSameTexts : Value → Value → Prop
  | .array expected, .array actual => ∀ pair ∈ expected.zip actual, Facing SameText pair.1 pair.2
  | _, _ => True

/-- Where sorting keeps counterparts together or may not matter, a match in order is a match of the
sorted arrays. -/
theorem compare_unordered_eq_nil {expected actual : Value} (wellFormed : expected.WellFormed)
    (passed : compare options.ordered expected actual = [])
    (alike : Facing (fun x y => ItemsSortAlike x y ∨ ItemsInterchangeable options x y)
      expected actual) :
    compare options.unordered expected actual = [] := by
  induction expected generalizing actual with
  | array items ih =>
      cases actual with
      | array found =>
          rw [compare_array_eq_nil_iff, List.forall₂_iff_zip] at passed ⊢
          obtain ⟨lengths, each⟩ := passed
          refine ⟨?_, fun {x y} sorted => ?_⟩
          · exact (Value.sortByCanonical_perm items).length_eq.trans
              (lengths.trans (Value.sortByCanonical_perm found).length_eq.symm)
          obtain together | interchangeable := alike.here
          · have kept := Value.zip_sortByCanonical_perm lengths together
            have member := kept.mem_iff.mp sorted
            have inside := (List.of_mem_zip member).1
            exact ih x inside (wellFormed.item inside) (each member)
              ((Value.facing_array_iff.mp alike).2 _ member)
          · have ⟨left, right⟩ := List.of_mem_zip sorted
            exact interchangeable x ((Value.sortByCanonical_perm items).mem_iff.mp left) y
              ((Value.sortByCanonical_perm found).mem_iff.mp right)
      | _ => cases kind_eq_of_compare_eq_nil passed
  | object members ih =>
      cases actual with
      | object found =>
          rw [compare_object_eq_nil_iff] at passed ⊢
          obtain ⟨counted, each⟩ := passed
          refine ⟨counted, fun name x member => ?_⟩
          obtain ⟨y, present, passed⟩ := each name x member
          have here := wellFormed.names.lookup_eq_some member
          exact ⟨y, present, ih name x member (wellFormed.value member) passed
            (alike.child (.member name) here present)⟩
      | _ => cases kind_eq_of_compare_eq_nil passed
  | _ => exact (compare_ordered_of_isScalar (by trivial) actual).symm.trans passed

/-! ## Counterparts with the same text -/

theorem canonical_eq_of_sameText {expected actual : Value} (scalar : expected.IsScalar)
    (same : SameText expected actual) : expected.canonical = actual.canonical := by
  cases expected with
  | array => exact scalar.elim
  | object => exact scalar.elim
  | _ => exact same

/-- An object that passed and has no member that was not expected has the expected names. -/
theorem keys_eq_of_passed {expected actual : List (String × Value)}
    {agrees : Value → Value → Prop} (expectedAscending : Keyed.Ascending expected)
    (actualAscending : Keyed.Ascending actual) (lengths : expected.length = actual.length)
    (each : ∀ name x, (name, x) ∈ expected → ∃ y, actual.lookup name = some y ∧ agrees x y) :
    Keyed.keys expected = Keyed.keys actual := by
  refine Keyed.keys_eq_of_subset expectedAscending actualAscending lengths fun name member => ?_
  obtain ⟨⟨_, x⟩, inside, rfl⟩ := List.mem_map.mp member
  obtain ⟨y, present, _⟩ := each _ x inside
  exact List.mem_map.mpr ⟨_, Keyed.mem_of_lookup present, rfl⟩

/-- Documents that match in order have the same canonical string if their scalars have, and no member
was tolerated. -/
theorem canonical_eq_of_facing {expected actual : Value} (expectedWellFormed : expected.WellFormed)
    (actualWellFormed : actual.WellFormed) (passed : compare options.ordered expected actual = [])
    (texts : Facing SameText expected actual) : expected.canonical = actual.canonical := by
  induction expected generalizing actual with
  | array items ih =>
      cases actual with
      | array found =>
          rw [compare_array_eq_nil_iff, List.forall₂_iff_zip] at passed
          obtain ⟨lengths, each⟩ := passed
          have counterparts : Forall₂ (fun x y => x.canonical = y.canonical) items found := by
            refine List.forall₂_iff_zip.mpr ⟨lengths, fun {x y} member => ?_⟩
            have ⟨left, right⟩ := List.of_mem_zip member
            exact ih x left (expectedWellFormed.item left) (actualWellFormed.item right)
              (each member) ((Value.facing_array_iff.mp texts).2 _ member)
          rw [Value.canonical_array, Value.canonical_array,
            Value.map_eq_of_forall₂ counterparts fun _ _ _ same => same.symm]
      | _ => cases kind_eq_of_compare_eq_nil passed
  | object members ih =>
      cases actual with
      | object found =>
          obtain ⟨_, each⟩ := compare_object_eq_nil_iff.mp passed
          have names := keys_eq_of_passed expectedWellFormed.names actualWellFormed.names
            texts.here each
          rw [Keyed.keys, Keyed.keys, ← List.forall₂_eq_eq_eq, List.forall₂_map_left_iff,
            List.forall₂_map_right_iff] at names
          rw [Value.canonical_object, Value.canonical_object, List.flatMap, List.flatMap,
            Value.map_eq_of_forall₂ (Value.forall₂_mem names)]
          rintro ⟨name, x⟩ _ ⟨_, y⟩ ⟨left, right, rfl⟩
          have here := expectedWellFormed.names.lookup_eq_some left
          have present := actualWellFormed.names.lookup_eq_some right
          obtain ⟨_, same, passed⟩ := each name x left
          obtain rfl := Option.some.inj (same.symm.trans present)
          rw [ih name x left (expectedWellFormed.value left) (actualWellFormed.value right) passed
            (texts.child (.member name) here present)]
      | _ => cases kind_eq_of_compare_eq_nil passed
  | _ => exact canonical_eq_of_sameText (by trivial) texts.here

theorem compare_ordered_child {expected actual x y : Value} {step : Step}
    (passed : compare options.ordered expected actual = [])
    (left : Value.child? step expected = some x) (right : Value.child? step actual = some y) :
    compare options.ordered x y = [] := by
  cases step with
  | member name =>
      cases expected with
      | object members =>
          cases actual with
          | object found =>
              obtain ⟨_, each⟩ := compare_object_eq_nil_iff.mp passed
              obtain ⟨_, same, passed⟩ := each name x (Keyed.mem_of_lookup left)
              obtain rfl := Option.some.inj (same.symm.trans right)
              exact passed
          | _ => cases right
      | _ => cases left
  | item index =>
      cases expected with
      | array items =>
          cases actual with
          | array found =>
              rw [compare_array_eq_nil_iff, List.forall₂_iff_zip] at passed
              exact passed.2 (List.mem_iff_getElem?.mpr
                ⟨index, List.getElem?_zip_eq_some.mpr ⟨left, right⟩⟩)
          | _ => cases right
      | _ => cases left

/-- In order, what passes as a whole passes part by part. -/
theorem facing_of_passed {expected actual : Value}
    (passed : compare options.ordered expected actual = []) :
    Facing (fun x y => compare options.ordered x y = []) expected actual := by
  intro place
  induction place generalizing expected actual with
  | nil =>
      intro x y left right
      cases left
      cases right
      exact passed
  | cons step rest ih =>
      intro x y left right
      obtain ⟨leftChild, left, leftRest⟩ := Value.part?_cons_eq_some_iff.mp left
      obtain ⟨rightChild, right, rightRest⟩ := Value.part?_cons_eq_some_iff.mp right
      exact ih (compare_ordered_child passed left right) x y leftRest rightRest

theorem itemsSortAlike_of_itemsHaveSameTexts {expected actual : Value}
    (expectedWellFormed : expected.WellFormed) (actualWellFormed : actual.WellFormed)
    (passed : compare options.ordered expected actual = [])
    (texts : ItemsHaveSameTexts expected actual) : ItemsSortAlike expected actual := by
  cases expected with
  | array items =>
      cases actual with
      | array found =>
          rw [compare_array_eq_nil_iff, List.forall₂_iff_zip] at passed
          have same : ∀ pair ∈ items.zip found, pair.1.canonical = pair.2.canonical := by
            intro pair member
            have ⟨left, right⟩ := List.of_mem_zip member
            exact canonical_eq_of_facing (expectedWellFormed.item left) (actualWellFormed.item right)
              (passed.2 member) (texts pair member)
          refine List.pairwise_of_forall_mem_list fun p pMember q qMember => ?_
          rw [same p pMember, same q qMember]
      | _ => trivial
  | _ => trivial

/-- Scalars of one kind match each other if their values are ignored. -/
theorem itemsInterchangeable_of_hasItemsOfOneKind {expected actual : Value}
    (ignored : options.ignoreValues = true)
    (passed : compare options.ordered expected actual = [])
    (oneKind : HasItemsOfOneKind expected) : ItemsInterchangeable options expected actual := by
  cases expected with
  | array items =>
      cases actual with
      | array found =>
          obtain ⟨kind, each⟩ := oneKind
          have matched := compare_array_eq_nil_iff.mp passed
          intro x xMember y yMember
          obtain ⟨z, zMember, zMatches⟩ := Value.exists_mem_of_forall₂ matched yMember
          have kinds : x.kind = y.kind :=
            (each x xMember).2.trans
              ((each z zMember).2.symm.trans (kind_eq_of_compare_eq_nil zMatches))
          rw [compare_scalar (each x xMember).1 kinds]
          exact if_pos ignored
      | _ => trivial
  | _ => trivial

/-- A match in order is a match without regard to the order of arrays where sorting keeps
counterparts together or all items match each other. It keeps them together where no directive,
ignored value, tolerated member or other spelling of a number inside of arrays gives counterparts
different texts. Where values are ignored, scalars of one kind match each other. -/
theorem compare_unordered_of_ordered {expected actual : Value}
    (expectedWellFormed : expected.WellFormed) (actualWellFormed : actual.WellFormed)
    (passed : compare options.ordered expected actual = []) :
    (Facing (fun x y => ItemsSortAlike x y ∨ ItemsInterchangeable options x y) expected actual →
      compare options.unordered expected actual = []) ∧
    (Facing ItemsHaveSameTexts expected actual → Facing ItemsSortAlike expected actual) ∧
    (options.ignoreValues = true →
      Facing (fun x y => HasItemsOfOneKind x → ItemsInterchangeable options x y)
        expected actual) := by
  refine ⟨compare_unordered_eq_nil expectedWellFormed passed, ?_, ?_⟩
  · intro texts place x y left right
    exact itemsSortAlike_of_itemsHaveSameTexts (expectedWellFormed.part left)
      (actualWellFormed.part right) (facing_of_passed passed place x y left right)
      (texts place x y left right)
  · intro ignored place x y left right
    exact itemsInterchangeable_of_hasItemsOfOneKind ignored
      (facing_of_passed passed place x y left right)

theorem compare_unordered_of_alike_items :
    compare (CompareOptions.unordered {})
        (.array [.string "$matchRegexp(b)", .string "x"]) (.array [.string "b", .string "x"]) = [] ∧
      compare (CompareOptions.unordered {})
        (.object [("k", .array [.string "d", .string "c"]), ("l", .string "$matchRegexp(b)")])
        (.object [("k", .array [.string "d", .string "c"]), ("l", .string "b"), ("z", .null)]) =
          [] ∧
      compare (CompareOptions.unordered { ignoreValues := true })
        (.array [.string "a", .string "b"]) (.array [.string "y", .string "x"]) = [] := by
  refine ⟨?_, ?_, ?_⟩
  · refine (compare_unordered_of_ordered (by decide) (by decide) (by decide +kernel)).1 ?_
    refine Value.facing_array_iff.mpr
      ⟨.inl (List.pairwise_pair.mpr (by decide)), fun pair member => ?_⟩
    rcases List.mem_pair.mp member with rfl | rfl <;> exact .of_isScalar trivial (.inl trivial)
  · obtain ⟨relaxed, alike, _⟩ := @compare_unordered_of_ordered {}
      (.object [("k", .array [.string "d", .string "c"]), ("l", .string "$matchRegexp(b)")])
      (.object [("k", .array [.string "d", .string "c"]), ("l", .string "b"), ("z", .null)])
      (by decide) (by decide) (by decide +kernel)
    refine relaxed fun place x y left right => .inl (alike ?_ place x y left right)
    refine Value.facing_object_iff.mpr ⟨trivial, fun name x y left right => ?_⟩
    rcases List.mem_pair.mp (Keyed.mem_of_lookup left) with same | same
    · cases same
      cases right
      refine Value.facing_array_iff.mpr ⟨fun pair member => ?_, fun pair member => ?_⟩
      · rcases List.mem_pair.mp member with rfl | rfl <;> exact .of_isScalar trivial rfl
      · rcases List.mem_pair.mp member with rfl | rfl <;> exact .of_isScalar trivial trivial
    · cases same
      exact .of_isScalar trivial trivial
  · obtain ⟨relaxed, _, oneKind⟩ := @compare_unordered_of_ordered { ignoreValues := true }
      (.array [.string "a", .string "b"]) (.array [.string "y", .string "x"])
      (by decide) (by decide) (by decide +kernel)
    refine relaxed (Value.facing_array_iff.mpr ⟨.inr ?_, fun pair member => ?_⟩)
    · refine (oneKind rfl).here ⟨.string, fun x member => ?_⟩
      rcases List.mem_pair.mp member with rfl | rfl <;> exact ⟨trivial, rfl⟩
    · rcases List.mem_pair.mp member with rfl | rfl <;> exact .of_isScalar trivial (.inl trivial)

/-- What matches in order also matches without regard to the order of arrays. -/
def Relaxes (options : CompareOptions) (expected actual : Value) : Prop :=
  compare options.ordered expected actual = [] → compare options.unordered expected actual = []

/-- A directive, a member that is not expected and a value that is ignored may each move a
counterpart to another place. -/
theorem not_relaxes_of_moved_counterparts :
    ¬ Relaxes {} (.array [.string "$matchRegexp(b)", .string "a"])
        (.array [.string "b", .string "a"]) ∧
      ¬ Relaxes {} (.array [.object [("k", .string "1")], .object [("k", .string "2")]])
        (.array [.object [("k", .string "1"), ("z", .null)],
          .object [("a", .null), ("k", .string "2")]]) ∧
      ¬ Relaxes { ignoreValues := true } (.array [.string "b", .null])
        (.array [.string "", .null]) := by
  refine ⟨fun relaxes => ?_, fun relaxes => ?_, fun relaxes => ?_⟩
  all_goals
    have matched := relaxes (by decide +kernel)
    rw [compare_unordered_pair] at matched
    exact absurd matched (by decide +kernel)

end ApiMock
