import ApiMock.Proofs.Compare.Pairing
import ApiMock.Proofs.Compare.Report

/-!
# Arrays of texts and lists of query values

There are two ways to compare lists of texts without regard to their order: as arrays, which are
sorted and compared item by item, and as query values, which are taken pair by pair. Both put the
same test to two texts. On literals both accept exactly the permutations.
-/

set_option autoImplicit false

namespace ApiMock

open List (Forall₂)

variable {options : CompareOptions} {expected actual : List String}

/-- Texts in a document are compared as query values are. -/
theorem compare_strings_eq_nil_iff (valued : options.ignoreValues = false)
    (expected actual : String) :
    compare options (.string expected) (.string actual) = [] ↔ Accepts expected actual := by
  have kinds : (Value.string expected).kind = (Value.string actual).kind := rfl
  rw [compare_scalar (by trivial) kinds, valued, if_neg Bool.false_ne_true,
    Option.toList_eq_nil_iff, Option.map_eq_none_iff]
  cases asked : Directive.pattern? expected with
  | none =>
      rw [scalarDifference?_text asked, accepts_of_literal asked]
      simp
  | some source =>
      rw [scalarDifference?_directive asked, Accepts, asked]
      dsimp only
      cases compiled : Pattern.compile source <;> simp

namespace Value

theorem sortByCanonical_map_string (texts : List String) :
    sortByCanonical (texts.map string) = (sortTexts texts).map string :=
  (map_mergeSort_canonical string texts).symm

theorem sortTexts_perm (texts : List String) : (sortTexts texts).Perm texts :=
  List.mergeSort_perm texts _

theorem sortTexts_eq_iff_perm {texts others : List String} :
    sortTexts texts = sortTexts others ↔ texts.Perm others := by
  refine ⟨fun same => ?_, sortTexts_eq_of_perm⟩
  exact (sortTexts_perm texts).symm.trans (same ▸ sortTexts_perm others)

end Value

/-- Arrays of literals match without regard to their order exactly if one is a permutation of the
other. -/
theorem compare_literals_iff_perm (ignored : options.ignoreArrayOrder = true)
    (valued : options.ignoreValues = false)
    (literal : ∀ text ∈ expected, Directive.pattern? text = none) :
    compare options (.array (expected.map .string)) (.array (actual.map .string)) = [] ↔
      actual.Perm expected := by
  have sorted (texts : List String) : options.arrange (texts.map .string) =
      (Value.sortTexts texts).map .string := by
    rw [CompareOptions.arrange, ignored, if_pos rfl, Value.sortByCanonical_map_string]
  have isLiteral : ∀ text ∈ Value.sortTexts expected, Directive.pattern? text = none :=
    fun text member => literal text ((Value.sortTexts_perm expected).mem_iff.mp member)
  have same_iff : ∀ text ∈ Value.sortTexts expected, ∀ other,
      compare options (.string text) (.string other) = [] ↔ text = other := by
    intro text member other
    rw [compare_strings_eq_nil_iff valued, accepts_of_literal (isLiteral text member)]
  rw [compare_array_eq_nil_iff, sorted, sorted, List.forall₂_map_left_iff,
    List.forall₂_map_right_iff, List.perm_comm, ← Value.sortTexts_eq_iff_perm]
  constructor
  · intro passed
    rw [← List.forall₂_eq_eq_eq]
    refine (Value.forall₂_mem passed).imp fun text other found => ?_
    obtain ⟨member, _, accepted⟩ := found
    exact (same_iff text member other).mp accepted
  · intro same
    rw [← same]
    exact List.forall₂_same.mpr fun text member => (same_iff text member text).mpr rfl

/-- Literals match as an array without regard to its order exactly if they match as query values,
and both exactly if one list is a permutation of the other. -/
theorem compare_texts_iff_compareQuery (ignored : options.ignoreArrayOrder = true)
    (valued : options.ignoreValues = false)
    (literal : ∀ text ∈ expected, Directive.pattern? text = none) :
    (compare options (.array (expected.map .string)) (.array (actual.map .string)) = [] ↔
        compareQuery expected actual = .ok true) ∧
      (compareQuery expected actual = .ok true ↔ actual.Perm expected) := by
  have matched : compareQuery expected actual = .ok true ↔ actual.Perm expected :=
    compareQuery_literals_iff_perm literal
  exact ⟨(compare_literals_iff_perm ignored valued literal).trans matched.symm, matched⟩

theorem compare_texts_iff_compareQuery_of_duplicates :
    let expected := ["b", "a", "a"]
    let actual := ["a", "b", "a"]
    (∀ text ∈ expected, Directive.pattern? text = none) ∧ actual.Perm expected ∧
      compare (CompareOptions.unordered {}) (.array (expected.map .string))
        (.array (actual.map .string)) = [] := by
  intro expected actual
  have literal : ∀ text ∈ expected, Directive.pattern? text = none := by decide
  have perm : actual.Perm expected := by decide
  have ⟨both, permuted⟩ :=
    @compare_texts_iff_compareQuery (CompareOptions.unordered {}) expected actual rfl rfl literal
  exact ⟨literal, perm, both.mpr (permuted.mpr perm)⟩

end ApiMock
