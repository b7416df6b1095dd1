import ApiMock.Proofs.Compare.DepthFirst
import ApiMock.Proofs.Text.Chunks
import ApiMock.Proofs.Text.Digits
import Mathlib

/-!
# Places of mismatches as they are written

Where no name holds a point or a bracket, a place is known by its text. At one place the two values
clash, or expected members are missing: so no mismatch is reported twice, and what is reported at one
place are members with different names.
-/

set_option autoImplicit false

namespace ApiMock

/-! ## Texts of places -/

/-- The characters that steps begin with. -/
def isStepMark (c : Char) : Bool := c == '.' || c == '['

def Step.Unmarked : Step → Prop
  | .member name => '.' ∉ name.toList ∧ '[' ∉ name.toList
  | .item _ => True

theorem isStepMark_eq_false {text : List Char} (noPoint : '.' ∉ text) (noBracket : '[' ∉ text) :
    ∀ c ∈ text, isStepMark c = false := by
  intro c member
  rw [isStepMark, Bool.or_eq_false_iff, beq_eq_false_iff_ne, beq_eq_false_iff_ne]
  exact ⟨fun same => noPoint (same ▸ member), fun same => noBracket (same ▸ member)⟩

theorem Step.toList_text_member (name : String) :
    (Step.member name).text.toList = '.' :: name.toList := by
  rw [text, String.toList_append]
  rfl

theorem Step.toList_text_item (index : Nat) :
    (Step.item index).text.toList = '[' :: (Nat.toDigits 10 index ++ [']']) := by
  rw [text, String.toList_append, String.toList_append, Nat.toString_eq_repr, Nat.toList_repr]
  rfl

theorem Step.isChunk_text {step : Step} (unmarked : step.Unmarked) :
    IsChunk isStepMark step.text.toList := by
  cases step with
  | member name =>
      refine ⟨'.', name.toList, toList_text_member name, rfl, ?_⟩
      exact isStepMark_eq_false unmarked.1 unmarked.2
  | item index =>
      refine ⟨'[', _, toList_text_item index, rfl, isStepMark_eq_false ?_ ?_⟩
      all_goals
        intro member
        rcases List.mem_append.mp member with digit | bracket
        · exact absurd (isDigit_of_mem_toDigits digit) (by decide)
        · exact absurd (List.mem_singleton.mp bracket) (by decide)

theorem Step.eq_of_text_eq {first second : Step} (same : first.text = second.text) :
    first = second := by
  have chars := congrArg String.toList same
  cases first with
  | member name =>
      cases second with
      | member other =>
          rw [toList_text_member, toList_text_member] at chars
          rw [String.toList_inj.mp (List.cons.inj chars).2]
      | item other =>
          rw [toList_text_member, toList_text_item] at chars
          exact absurd (List.cons.inj chars).1 (by decide)
  | item index =>
      cases second with
      | member other =>
          rw [toList_text_member, toList_text_item] at chars
          exact absurd (List.cons.inj chars).1 (by decide)
      | item other =>
          rw [toList_text_item, toList_text_item] at chars
          have digits := List.append_cancel_right (List.cons.inj chars).2
          rw [← Nat.toList_repr, ← Nat.toList_repr, String.toList_inj] at digits
          rw [eq_of_toString_eq digits]

/-- A place is known by its text where no name in it holds a mark. -/
theorem Location.eq_of_text_eq {first second : Location} (unmarked : ∀ step ∈ first, step.Unmarked)
    (otherUnmarked : ∀ step ∈ second, step.Unmarked) (same : first.text = second.text) :
    first = second := by
  have chars : (first.map fun step => step.text.toList).flatten =
      (second.map fun step => step.text.toList).flatten := by
    have joined := congrArg String.toList same
    rw [text, text, String.toList_append, String.toList_append, List.append_cancel_left_eq,
      String.toList_join, String.toList_join, List.flatMap_map, List.flatMap_map] at joined
    exact joined
  have chunks (place : Location) (plain : ∀ step ∈ place, step.Unmarked) :
      ∀ chunk ∈ place.map fun step => step.text.toList, IsChunk isStepMark chunk := by
    intro chunk member
    obtain ⟨step, inside, rfl⟩ := List.mem_map.mp member
    exact Step.isChunk_text (plain step inside)
  refine List.map_injective_iff.mpr (fun step other equal => ?_)
    (IsChunk.flatten_inj (chunks first unmarked) (chunks second otherUnmarked) chars)
  exact Step.eq_of_text_eq (String.toList_inj.mp equal)

/-! ## Names along a place -/

namespace Value

def NamesUnmarked : Value → Prop
  | .object members => ∀ name ∈ Keyed.keys members, (Step.member name).Unmarked
  | _ => True

/-- No name in the value holds a point or a bracket. -/
def Unmarked (value : Value) : Prop := ∀ part, Part part value → part.NamesUnmarked

theorem unmarked_array_iff {items : List Value} :
    Unmarked (.array items) ↔ ∀ item ∈ items, item.Unmarked := by
  unfold Unmarked
  rw [forall_part_array]
  exact and_iff_right trivial

theorem unmarked_object_iff {members : List (String × Value)} :
    Unmarked (.object members) ↔
      (∀ name ∈ Keyed.keys members, (Step.member name).Unmarked) ∧
        ∀ name value, (name, value) ∈ members → value.Unmarked :=
  forall_part_object

theorem Unmarked.of_isScalar {value : Value} (scalar : value.IsScalar) : value.Unmarked := by
  refine (forall_part_of_isScalar scalar).mpr ?_
  cases value with
  | object => exact scalar.elim
  | _ => trivial

theorem Unmarked.child {value child : Value} {step : Step} (unmarked : value.Unmarked)
    (found : value.child? step = some child) : step.Unmarked ∧ child.Unmarked := by
  cases value with
  | array items =>
      cases step with
      | member => cases found
      | item => exact ⟨trivial, unmarked_array_iff.mp unmarked _ (List.mem_of_getElem? found)⟩
  | object members =>
      cases step with
      | item => cases found
      | member name =>
          obtain ⟨names, values⟩ := unmarked_object_iff.mp unmarked
          have inside := Keyed.mem_of_lookup found
          exact ⟨names name (List.mem_map.mpr ⟨_, inside, rfl⟩), values name child inside⟩
  | _ => cases step <;> cases found

end Value

variable {options : CompareOptions} {expected actual : Value} {place : Location}
  {difference other : Difference}

/-- Arranging an array moves its items, and changes no name. -/
theorem exists_child?_of_arranged {value child : Value} {step : Step}
    (found : (options.arranged value).child? step = some child) :
    ∃ original, value.child? original = some child ∧
      ∀ name, step = .member name → original = .member name := by
  cases value with
  | array items =>
      cases step with
      | member => cases found
      | item index =>
          have inside := (options.arrange_perm items).mem_iff.mp (List.mem_of_getElem? found)
          obtain ⟨original, here⟩ := List.mem_iff_getElem?.mp inside
          exact ⟨.item original, here, nofun⟩
  | _ => exact ⟨step, found, fun _ same => same⟩

theorem Value.WellFormed.child_arranged {value child : Value} {step : Step}
    (wellFormed : value.WellFormed) (found : (options.arranged value).child? step = some child) :
    child.WellFormed := by
  obtain ⟨original, here, _⟩ := exists_child?_of_arranged found
  exact wellFormed.child here

theorem Value.Unmarked.child_arranged {value child : Value} {step : Step}
    (unmarked : value.Unmarked) (found : (options.arranged value).child? step = some child) :
    step.Unmarked ∧ child.Unmarked := by
  obtain ⟨original, here, same⟩ := exists_child?_of_arranged found
  obtain ⟨name, inside⟩ := unmarked.child here
  refine ⟨?_, inside⟩
  cases step with
  | item => trivial
  | member step => exact same step rfl ▸ name

/-- The names along the place of a mismatch are names of the expected value. -/
theorem unmarked_of_mem_compare (wellFormed : expected.WellFormed) (unmarked : expected.Unmarked)
    (reported : ⟨place, difference⟩ ∈ compare options expected actual) :
    ∀ step ∈ place, step.Unmarked := by
  induction place generalizing expected actual with
  | nil => exact List.forall_mem_nil _
  | cons step rest ih =>
      obtain ⟨x, y, _, here, _, behind⟩ := (mem_compare_cons_iff wellFormed).mp reported
      obtain ⟨name, inside⟩ := unmarked.child_arranged here
      exact List.forall_mem_cons.mpr ⟨name, ih (wellFormed.child_arranged here) inside behind⟩

/-! ## Mismatches at one place -/

theorem Clash.not_descends (clash : Clash options expected actual difference) :
    ¬ Descends options expected actual := by
  cases clash with
  | kinds differ => exact fun descends => differ descends.kind_eq
  | arrayLengths differ => exact differ
  | mapLengths strict differ => exact fun counted => differ (counted strict)
  | _ => exact id

/-- Where a member is missing the values do not clash, so all that is reported there is missing. -/
theorem exists_missingKey_of_mem {key : String} (wellFormed : expected.WellFormed)
    (missing : ⟨place, .missingKey key⟩ ∈ compare options expected actual)
    (reported : ⟨place, difference⟩ ∈ compare options expected actual) :
    ∃ name, difference = .missingKey name := by
  induction place generalizing expected actual with
  | nil =>
      have descends : Descends options expected actual := by
        rcases mem_compare_nil_iff.mp missing with clash | missing
        · nomatch clash
        · cases missing with
          | key descends _ _ => exact descends
      rcases mem_compare_nil_iff.mp reported with clash | missing
      · exact absurd descends clash.not_descends
      · cases missing with
        | key => exact ⟨_, rfl⟩
  | cons step rest ih =>
      obtain ⟨x, y, _, left, right, inner⟩ := (mem_compare_cons_iff wellFormed).mp missing
      obtain ⟨u, v, _, otherLeft, otherRight, otherInner⟩ :=
        (mem_compare_cons_iff wellFormed).mp reported
      -- both are found by the comparison of the same two parts
      cases left.symm.trans otherLeft
      cases right.symm.trans otherRight
      exact ih (wellFormed.child_arranged left) inner otherInner

theorem Mismatch.turn_of_ne_missingKey (present : ∀ key, difference ≠ .missingKey key) :
    (Mismatch.mk place difference).turn = place := by
  cases difference with
  | missingKey key => exact absurd rfl (present key)
  | _ => rfl

theorem exists_missingKeys_of_turn_ne (wellFormed : expected.WellFormed)
    (first : ⟨place, difference⟩ ∈ compare options expected actual)
    (second : ⟨place, other⟩ ∈ compare options expected actual)
    (turns : (Mismatch.mk place difference).turn ≠ (Mismatch.mk place other).turn) :
    ∃ key name, difference = .missingKey key ∧ other = .missingKey name ∧ key ≠ name := by
  by_cases missing : ∃ key, difference = .missingKey key
  · obtain ⟨key, rfl⟩ := missing
    obtain ⟨name, rfl⟩ := exists_missingKey_of_mem wellFormed first second
    exact ⟨key, name, rfl, rfl, fun same => turns (same ▸ rfl)⟩
  · have otherPresent : ∀ name, other ≠ .missingKey name := by
      rintro name rfl
      exact missing (exists_missingKey_of_mem wellFormed second first)
    have present : ∀ key, difference ≠ .missingKey key := fun key same => missing ⟨key, same⟩
    rw [Mismatch.turn_of_ne_missingKey present,
      Mismatch.turn_of_ne_missingKey otherPresent] at turns
    exact absurd rfl turns

/-- Whatever the options are, two mismatches that are written at the same place are missing members
with different names. So no two have the same place, kind and expected text. -/
theorem compare_reports_once (wellFormed : expected.WellFormed) (unmarked : expected.Unmarked) :
    (compare options expected actual).Pairwise fun first second =>
      (first.location.text, first.difference.title, first.difference.expectedText) ≠
          (second.location.text, second.difference.title, second.difference.expectedText) ∧
        (first.location.text = second.location.text →
          ∃ key name, first.difference = .missingKey key ∧ second.difference = .missingKey name ∧
            key ≠ name) := by
  refine (pairwise_compare wellFormed).imp_of_mem fun {first second} here there before => ?_
  have missing (same : first.location.text = second.location.text) :
      ∃ key name, first.difference = .missingKey key ∧ second.difference = .missingKey name ∧
        key ≠ name := by
    have places := Location.eq_of_text_eq (unmarked_of_mem_compare wellFormed unmarked here)
      (unmarked_of_mem_compare wellFormed unmarked there) same
    obtain ⟨place, difference⟩ := first
    obtain ⟨place, other⟩ := second
    cases places
    refine exists_missingKeys_of_turn_ne wellFormed here there fun turns => ?_
    exact Location.Before.irrefl _ (turns ▸ before)
  refine ⟨fun same => ?_, missing⟩
  simp only [Prod.mk.injEq] at same
  obtain ⟨key, name, left, right, differ⟩ := missing same.1
  rw [left, right] at same
  exact differ same.2.2

/-- Two members are missing in the first item that is compared, which is the last one of its array. -/
theorem compare_reports_once_of_missing_members :
    let expected : Value :=
      .object [("", .array [.string "x", .object [("a", .null), ("b", .null)]])]
    let actual : Value := .object [("", .array [.string "y", .object []])]
    let mismatches := compare { ignoreArrayOrder := true } expected actual
    expected.WellFormed ∧ expected.Unmarked ∧
      mismatches.map (fun mismatch => mismatch.location.text) = ["$.[0]", "$.[0]", "$.[1]"] ∧
      mismatches.Pairwise fun first second =>
        first.location.text = second.location.text →
          ∃ key name, first.difference = .missingKey key ∧ second.difference = .missingKey name ∧
            key ≠ name := by
  intro expected actual mismatches
  have wellFormed : expected.WellFormed := by decide +kernel
  have unmarked : expected.Unmarked := by
    have text : (Value.string "x").Unmarked := .of_isScalar trivial
    have null : Value.null.Unmarked := .of_isScalar trivial
    simp [expected, Value.unmarked_object_iff, Value.unmarked_array_iff, Keyed.keys,
      Step.Unmarked, text, null, or_imp, forall_and]
  have places : mismatches.map (fun mismatch => mismatch.location.text) =
      ["$.[0]", "$.[0]", "$.[1]"] := by
    simp only [mismatches, expected, actual]
    cbv
  exact ⟨wellFormed, unmarked, places,
    (compare_reports_once wellFormed unmarked).imp fun once => once.2⟩

end ApiMock
