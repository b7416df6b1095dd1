import ApiMock.Constraint
import ApiMock.Proofs.Compare.Pairing
import ApiMock.Proofs.Http.QueryJoining
import ApiMock.Proofs.Keyed.Insert
import Mathlib.Data.List.Basic

/-!
# Constraints on query parameters

An expected query asks for its keys one by one. A key that the query of the request lacks is missing,
and without directives its values have to be the expected ones in any order. Since a key is judged by
its own values alone, other parameters never count, and neither does the order of segments.
-/

set_option autoImplicit false

namespace ApiMock

/-! ## Orders of segments -/

namespace Query

/-- Two queries have the same segments in some order, and neither begins with a question mark. -/
def Reordered (query other : String) : Prop :=
  query.toList.head? ≠ some '?' ∧ other.toList.head? ≠ some '?' ∧
    (Split.atEach '&' query.toList).Perm (Split.atEach '&' other.toList)

theorem Reordered.parameters_perm {query other : String} (reordered : Reordered query other) :
    (parameters query).Perm (parameters other) := by
  obtain ⟨plain, otherPlain, perm⟩ := reordered
  unfold parameters segments
  rw [body_of_head?_ne plain, body_of_head?_ne otherPlain]
  exact (perm.filter _).map _

end Query

/-! ## One key -/

theorem exists_compareQuery_eq_ok {expected actual : List String}
    (wellFormed : ∀ text ∈ expected, ¬ Directive.IsMalformed text) :
    ∃ same, compareQuery expected actual = .ok same := by
  by_cases lengths : expected.length = actual.length
  · have rounds := rounds_compareQuery lengths
    generalize compareQuery expected actual = result at rounds ⊢
    cases result with
    | ok same => exact ⟨same, rfl⟩
    | error fault =>
        obtain ⟨text, member, failed⟩ := rounds.exists_valueTest_eq_error
        exact absurd (isMalformed_iff.mpr ⟨fault, failed⟩) (wellFormed text member)
  · exact ⟨false, compareQuery_of_length_ne lengths⟩

/-- The key of the query parameter that a violation is about. -/
def Violation.parameter? : Violation → Option String
  | .missingParameter key => some key
  | .parameterDiffers key _ _ => some key
  | .malformedParameter key _ => some key
  | _ => none

namespace Constraint

open Keyed (keys valuesOf)

/-- The parameters have the key, with the expected values in any order. -/
def Satisfied (expected actual : List (String × String)) (key : String) : Prop :=
  key ∈ keys actual ∧ (valuesOf key actual).Perm (valuesOf key expected)

instance (expected actual : List (String × String)) (key : String) :
    Decidable (Satisfied expected actual key) :=
  inferInstanceAs (Decidable (_ ∧ _))

/-- What is wrong with a key that is expected. -/
def failure? (expected actual : List (String × String)) (key : String) : Option Violation :=
  if key ∉ keys actual then some (.missingParameter key)
  else if ¬ (valuesOf key actual).Perm (valuesOf key expected) then
    some (.parameterDiffers key (valuesOf key expected) (valuesOf key actual))
  else none

variable {expected actual others : List (String × String)} {key : String}

theorem failure?_eq_none_iff : failure? expected actual key = none ↔ Satisfied expected actual key := by
  unfold failure? Satisfied
  split
  · simp_all
  · split <;> simp_all

theorem satisfied_of_perm (perm : actual.Perm others) :
    Satisfied expected actual key ↔ Satisfied expected others key := by
  have keysPerm : (keys actual).Perm (keys others) := perm.map _
  have valuesPerm : (valuesOf key actual).Perm (valuesOf key others) := Keyed.valuesOf_perm perm
  exact and_congr keysPerm.mem_iff ⟨valuesPerm.symm.trans, valuesPerm.trans⟩

theorem failure?_congr (same : valuesOf key others = valuesOf key actual) :
    failure? expected others key = failure? expected actual key := by
  have present : key ∉ keys others ↔ key ∉ keys actual := by
    rw [← Keyed.valuesOf_eq_nil_iff, ← Keyed.valuesOf_eq_nil_iff, same]
  simp only [failure?, present, same]

theorem parameter?_of_failure? {violation : Violation}
    (failed : failure? expected actual key = some violation) :
    violation.parameter? = some key := by
  unfold failure? at failed
  split at failed
  · cases failed
    rfl
  · split at failed
    · cases failed
      rfl
    · cases failed

/-- The keys that are violated, in the order of the violations. -/
theorem map_parameter?_filterMap (asked : List String) :
    (asked.filterMap (failure? expected actual)).map Violation.parameter? =
      (asked.filter fun key => ¬ Satisfied expected actual key).map some := by
  induction asked with
  | nil => rfl
  | cons key rest ih =>
      cases failed : failure? expected actual key with
      | none =>
          have satisfied := failure?_eq_none_iff.mp failed
          rw [List.filterMap_cons_none failed, ih, List.filter_cons_of_neg (by simpa using satisfied)]
      | some violation =>
          have violated : ¬ Satisfied expected actual key := by
            rw [← failure?_eq_none_iff, failed]
            nofun
          rw [List.filterMap_cons_some failed, List.filter_cons_of_pos (by simpa using violated),
            List.map_cons, List.map_cons, ih, parameter?_of_failure? failed]

theorem parameterViolations_eq (literal : ∀ value ∈ valuesOf key expected,
      Directive.pattern? value = none) :
    parameterViolations key (valuesOf key expected) ((Keyed.collect actual).lookup key) =
      (failure? expected actual key).toList := by
  rw [Keyed.lookup_collect]
  by_cases present : key ∈ keys actual
  · obtain ⟨same, compared⟩ := @exists_compareQuery_eq_ok _ (valuesOf key actual)
      fun text member => not_isMalformed_of_literal (literal text member)
    have decided : compareQuery _ (valuesOf key actual) = .ok true ↔ _ :=
      compareQuery_literals_iff_perm literal
    rw [compared, Except.ok.injEq] at decided
    rw [if_pos present, parameterViolations, compared, failure?, if_neg (not_not_intro present)]
    cases same with
    | true => rw [if_neg (not_not_intro (decided.mp rfl))]; rfl
    | false => rw [if_pos (decided.not.mp Bool.false_ne_true)]; rfl
  · rw [if_neg present, failure?, if_pos present]
    rfl

theorem queryViolations_eq
    (literal : ∀ parameter ∈ expected, Directive.pattern? parameter.2 = none) :
    queryViolations (Keyed.collect expected) (Keyed.collect actual) =
      (keys (Keyed.collect expected)).filterMap (failure? expected actual) := by
  have each : ∀ group ∈ Keyed.collect expected,
      parameterViolations group.1 group.2 ((Keyed.collect actual).lookup group.1) =
        (failure? expected actual group.1).toList := by
    intro group member
    rw [Keyed.eq_valuesOf_of_mem_collect member]
    apply parameterViolations_eq
    intro value inside
    exact literal (group.1, value) (Keyed.mem_valuesOf_iff.mp inside)
  rw [queryViolations, keys, List.filterMap_map, List.filterMap_eq_flatMap_toList]
  exact List.flatMap_congr each

/-! ## The query of a request -/

/-- The constraints that an expected query stands for. -/
inductive OfQuery (text : String) : Constraint → Prop where
  | values : OfQuery text (.queryMatches (Query.grouped text))
  | patterns : OfQuery text (.queryMatchesPatterns (Query.grouped text))

theorem verify_eq_filterMap {text : String} {constraint : Constraint}
    (asked : OfQuery text constraint)
    (literal : ∀ parameter ∈ Query.parameters text, Directive.pattern? parameter.2 = none)
    (request : Request) :
    verify request constraint = (keys (Query.grouped text)).filterMap
      (failure? (Query.parameters text) (Query.parameters request.target.query)) := by
  cases asked with
  | values => exact queryViolations_eq literal
  | patterns => exact queryViolations_eq literal

/-- A query without directives is judged key by key, in ascending order: each expected key has at
most one violation, and none exactly if the request has the key with the expected values in any
order. Parameters with other keys do not count, and to reorder the segments of the request changes
neither whether it passes nor which keys are violated. -/
theorem verify_query {text : String}
    (literal : ∀ parameter ∈ Query.parameters text, Directive.pattern? parameter.2 = none)
    {constraint : Constraint} (asked : OfQuery text constraint) (request : Request) :
    let expected := Query.parameters text
    let actual := Query.parameters request.target.query
    let expectedKeys := keys (Query.grouped text)
    expectedKeys.Pairwise (· < ·) ∧ (∀ key, key ∈ expectedKeys ↔ key ∈ keys expected) ∧
      verify request constraint = expectedKeys.filterMap (failure? expected actual) ∧
      (verify request constraint = [] ↔ ∀ key ∈ keys expected,
        key ∈ keys actual ∧ (valuesOf key actual).Perm (valuesOf key expected)) ∧
      (∀ other : Request,
        (∀ key ∈ keys expected,
          valuesOf key (Query.parameters other.target.query) = valuesOf key actual) →
        verify other constraint = verify request constraint) ∧
      ∀ other : Request, Query.Reordered other.target.query request.target.query →
        (verify other constraint = [] ↔ verify request constraint = []) ∧
          (verify other constraint).map Violation.parameter? =
            (verify request constraint).map Violation.parameter? := by
  intro expected actual expectedKeys
  have same_keys (key : String) : key ∈ expectedKeys ↔ key ∈ keys expected :=
    Keyed.mem_keys_collect_iff
  have each := verify_eq_filterMap asked literal
  refine ⟨Keyed.ascending_collect expected, same_keys, each request, ?_, ?_, ?_⟩
  · rw [each request, List.filterMap_eq_nil_iff]
    simp only [failure?_eq_none_iff]
    exact forall_congr' fun key => imp_congr_left (same_keys key)
  · intro other same
    rw [each other, each request]
    apply List.filterMap_congr
    intro key member
    exact failure?_congr (same key ((same_keys key).mp member))
  · intro other reordered
    have violated : (verify other constraint).map Violation.parameter? =
        (verify request constraint).map Violation.parameter? := by
      rw [each other, each request, map_parameter?_filterMap, map_parameter?_filterMap]
      simp only [satisfied_of_perm reordered.parameters_perm]
    refine ⟨?_, violated⟩
    rw [← List.map_eq_nil_iff, violated, List.map_eq_nil_iff]

theorem verify_query_of_reordered_segments :
    let text := "b=1&a=2&a=3&c="
    let request : Request := { target := ⟨none, some "/?a=3&x=9&b=2&a=2"⟩ }
    let other : Request := { target := ⟨none, some "/?b=2&a=2&a=3&x=9"⟩ }
    let constraint : Constraint := .queryMatches (Query.grouped text)
    (∀ parameter ∈ Query.parameters text, Directive.pattern? parameter.2 = none) ∧
      (verify request constraint).map Violation.parameter? = [some "b", some "c"] ∧
      (verify other constraint).map Violation.parameter? = [some "b", some "c"] := by
  intro text request other constraint
  have literal : ∀ parameter ∈ Query.parameters text, Directive.pattern? parameter.2 = none := by
    decide +kernel
  have reordered : Query.Reordered other.target.query request.target.query := by
    refine ⟨?_, ?_, ?_⟩ <;> decide +kernel
  have violated : (verify request constraint).map Violation.parameter? = [some "b", some "c"] := by
    decide +kernel
  obtain ⟨_, _, _, _, _, reorder⟩ := verify_query literal .values request
  exact ⟨literal, violated, (reorder other reordered).2.trans violated⟩

end Constraint

end ApiMock
