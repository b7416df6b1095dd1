import ApiMock.Proofs.Compare.Descent
import ApiMock.Proofs.Value.Place

/-!
# What a comparison reports

A comparison in order visits the places that both documents have, as far as the arrays and objects
on the way have fitting sizes. It reports the places it visits whose two values clash, and the
expected members that it misses there, each once and in depth-first order.
-/

set_option autoImplicit false

namespace ApiMock

/-! ## Places that are visited -/

/-- The comparison goes on from the two values to their parts. -/
def Descends (options : CompareOptions) : Value → Value → Prop
  | .array expected, .array actual => expected.length = actual.length
  | .object expected, .object actual =>
      options.disallowExtraFields = true → expected.length = actual.length
  | _, _ => False

/-- On the way to the place, each step exists in both documents and leads from values that the
comparison descends from. -/
def Visited (options : CompareOptions) (expected actual : Value) (place : Location) : Prop :=
  ∀ before step after, place = before ++ step :: after →
    ∃ x y, expected.part? before = some x ∧ actual.part? before = some y ∧
      Descends options x y ∧ (x.child? step).isSome ∧ (y.child? step).isSome

/-- How two values at one place differ, whatever their parts are. -/
inductive Clash (options : CompareOptions) : Value → Value → Difference → Prop where
  | kinds {expected actual : Value} :
      expected.kind ≠ actual.kind →
      Clash options expected actual (.kinds expected.kind actual.kind)
  | arrayLengths {expected actual : List Value} :
      expected.length ≠ actual.length →
      Clash options (.array expected) (.array actual)
        (.arrayLengths expected.length actual.length)
  | mapLengths {expected actual : List (String × Value)} :
      options.disallowExtraFields = true → expected.length ≠ actual.length →
      Clash options (.object expected) (.object actual)
        (.mapLengths expected.length actual.length)
  | bools {expected actual : Bool} :
      options.ignoreValues = false → expected ≠ actual →
      Clash options (.bool expected) (.bool actual) (.values (.bool expected) (.bool actual))
  | numbers {expected actual : Number} :
      options.ignoreValues = false → expected.eqv actual = false →
      Clash options (.number expected) (.number actual)
        (.values (.number expected) (.number actual))
  | strings {expected actual : String} :
      options.ignoreValues = false → Directive.pattern? expected = none → expected ≠ actual →
      Clash options (.string expected) (.string actual)
        (.values (.string expected) (.string actual))
  | malformedPattern {directive actual source : String} {fault : Pattern.Fault} :
      options.ignoreValues = false → Directive.pattern? directive = some source →
      Pattern.compile source = .error fault →
      Clash options (.string directive) (.string actual) .malformedPattern
  | pattern {directive actual source : String} {pattern : Pattern} :
      options.ignoreValues = false → Directive.pattern? directive = some source →
      Pattern.compile source = .ok pattern → pattern.occursIn actual = false →
      Clash options (.string directive) (.string actual) (.pattern directive actual)

/-- An expected member that an object lacks, where the comparison looks at the members. -/
inductive Missing (options : CompareOptions) : Value → Value → Difference → Prop where
  | key {members found : List (String × Value)} {name : String} :
      Descends options (.object members) (.object found) →
      name ∈ Keyed.keys members → name ∉ Keyed.keys found →
      Missing options (.object members) (.object found) (.missingKey name)

/-- The mismatches of two documents: clashes and missing members at the places that are visited. -/
def Reported (options : CompareOptions) (expected actual : Value) (mismatch : Mismatch) : Prop :=
  Visited options expected actual mismatch.location ∧
    ∃ x y, expected.part? mismatch.location = some x ∧ actual.part? mismatch.location = some y ∧
      (Clash options x y mismatch.difference ∨ Missing options x y mismatch.difference)

variable {options : CompareOptions} {expected actual : Value}

theorem visited_nil : Visited options expected actual [] := by
  intro before step after same
  cases before <;> cases same

theorem visited_cons_iff {step : Step} {place : Location} :
    Visited options expected actual (step :: place) ↔
      ∃ x y, Descends options expected actual ∧ expected.child? step = some x ∧
        actual.child? step = some y ∧ Visited options x y place := by
  constructor
  · intro visited
    obtain ⟨_, _, here, there, descends, left, right⟩ := visited [] step place rfl
    cases here
    cases there
    obtain ⟨x, left⟩ := Option.isSome_iff_exists.mp left
    obtain ⟨y, right⟩ := Option.isSome_iff_exists.mp right
    refine ⟨x, y, descends, left, right, fun before next after same => ?_⟩
    have deeper := visited (step :: before) next after (by rw [same]; rfl)
    simpa only [Value.part?_cons, left, right, Option.bind_some] using deeper
  · rintro ⟨x, y, descends, left, right, visited⟩ before next after same
    cases before with
    | nil =>
        cases same
        exact ⟨expected, actual, rfl, rfl, descends, by rw [left]; rfl, by rw [right]; rfl⟩
    | cons first before =>
        cases same
        simpa only [Value.part?_cons, left, right, Option.bind_some] using
          visited before next after rfl

theorem reported_nil_iff {difference : Difference} :
    Reported options expected actual ⟨[], difference⟩ ↔
      Clash options expected actual difference ∨ Missing options expected actual difference := by
  constructor
  · rintro ⟨_, _, _, left, right, fails⟩
    cases left
    cases right
    exact fails
  · exact fun fails => ⟨visited_nil, expected, actual, rfl, rfl, fails⟩

theorem reported_cons_iff {step : Step} {place : Location} {difference : Difference} :
    Reported options expected actual ⟨step :: place, difference⟩ ↔
      ∃ x y, Descends options expected actual ∧ expected.child? step = some x ∧
        actual.child? step = some y ∧ Reported options x y ⟨place, difference⟩ := by
  constructor
  · rintro ⟨visited, u, v, left, right, fails⟩
    obtain ⟨x, y, descends, here, there, visited⟩ := visited_cons_iff.mp visited
    rw [Value.part?_cons, here, Option.bind_some] at left
    rw [Value.part?_cons, there, Option.bind_some] at right
    exact ⟨x, y, descends, here, there, visited, u, v, left, right, fails⟩
  · rintro ⟨x, y, descends, here, there, visited, u, v, left, right, fails⟩
    refine ⟨visited_cons_iff.mpr ⟨x, y, descends, here, there, visited⟩, u, v, ?_, ?_, fails⟩
    · exact Value.part?_cons_eq_some_iff.mpr ⟨x, here, left⟩
    · exact Value.part?_cons_eq_some_iff.mpr ⟨y, there, right⟩

/-! ## What is found at the root and behind a step -/

theorem mem_map_within_nil {mismatches : List Mismatch} {step : Step} {difference : Difference} :
    ⟨[], difference⟩ ∉ mismatches.map (Mismatch.within [step]) := by
  intro member
  obtain ⟨_, _, same⟩ := List.mem_map.mp member
  cases same

theorem mem_map_within_cons {mismatches : List Mismatch} {step other : Step} {place : Location}
    {difference : Difference} :
    ⟨step :: place, difference⟩ ∈ mismatches.map (Mismatch.within [other]) ↔
      step = other ∧ ⟨place, difference⟩ ∈ mismatches := by
  rw [List.mem_map]
  constructor
  · rintro ⟨mismatch, member, same⟩
    cases same
    exact ⟨rfl, member⟩
  · rintro ⟨rfl, member⟩
    exact ⟨_, member, rfl⟩

theorem arrange_of_ordered (ordered : options.ignoreArrayOrder = false) (items : List Value) :
    options.arrange items = items := by
  simp only [CompareOptions.arrange, ordered, Bool.false_eq_true, if_false]

/-- The value whose parts are compared with those of another one: an array is arranged first. -/
def CompareOptions.arranged (options : CompareOptions) : Value → Value
  | .array items => .array (options.arrange items)
  | value => value

theorem arranged_of_ordered (ordered : options.ignoreArrayOrder = false) (value : Value) :
    options.arranged value = value := by
  cases value with
  | array items => rw [CompareOptions.arranged, arrange_of_ordered ordered]
  | _ => rfl

section Arrays

variable {items found : List Value}

theorem mem_compare_array_cons_iff (lengths : items.length = found.length) {step : Step}
    {place : Location} {difference : Difference} :
    ⟨step :: place, difference⟩ ∈ compare options (.array items) (.array found) ↔
      ∃ x y, Value.child? step (.array (options.arrange items)) = some x ∧
        Value.child? step (.array (options.arrange found)) = some y ∧
        ⟨place, difference⟩ ∈ compare options x y := by
  rw [compare_array lengths, List.mem_flatMap]
  constructor
  · rintro ⟨⟨⟨x, y⟩, index⟩, member, mismatch⟩
    obtain ⟨rfl, inner⟩ := mem_map_within_cons.mp mismatch
    obtain ⟨left, right⟩ :=
      List.getElem?_zip_eq_some.mp (List.mk_mem_zipIdx_iff_getElem?.mp member)
    exact ⟨x, y, left, right, inner⟩
  · rintro ⟨x, y, left, right, mismatch⟩
    cases step with
    | member => cases left
    | item index =>
        refine ⟨((x, y), index), ?_, mem_map_within_cons.mpr ⟨rfl, mismatch⟩⟩
        exact List.mk_mem_zipIdx_iff_getElem?.mpr (List.getElem?_zip_eq_some.mpr ⟨left, right⟩)

theorem not_mem_compare_array_nil (lengths : items.length = found.length)
    {difference : Difference} :
    ⟨[], difference⟩ ∉ compare options (.array items) (.array found) := by
  rw [compare_array lengths, List.mem_flatMap]
  rintro ⟨pair, _, mismatch⟩
  exact mem_map_within_nil mismatch

end Arrays

section Objects

variable {members found : List (String × Value)}

theorem mem_compare_object_cons_iff (ascending : Keyed.Ascending members)
    (counted : options.disallowExtraFields = true → members.length = found.length) {step : Step}
    {place : Location} {difference : Difference} :
    ⟨step :: place, difference⟩ ∈ compare options (.object members) (.object found) ↔
      ∃ x y, Value.child? step (.object members) = some x ∧
        Value.child? step (.object found) = some y ∧
        ⟨place, difference⟩ ∈ compare options x y := by
  rw [compare_object counted, List.mem_flatMap]
  constructor
  · rintro ⟨⟨name, x⟩, member, mismatch⟩
    cases present : found.lookup name with
    | none =>
        rw [compareMember_of_lookup_eq_none x present] at mismatch
        simp at mismatch
    | some y =>
        rw [compareMember_of_lookup_eq_some x present] at mismatch
        obtain ⟨rfl, inner⟩ := mem_map_within_cons.mp mismatch
        exact ⟨x, y, ascending.lookup_eq_some member, present, inner⟩
  · rintro ⟨x, y, left, right, mismatch⟩
    cases step with
    | item => cases left
    | member name =>
        refine ⟨(name, x), Keyed.mem_of_lookup left, ?_⟩
        rw [compareMember_of_lookup_eq_some x right]
        exact mem_map_within_cons.mpr ⟨rfl, mismatch⟩

theorem mem_compare_object_nil_iff
    (counted : options.disallowExtraFields = true → members.length = found.length)
    {difference : Difference} :
    ⟨[], difference⟩ ∈ compare options (.object members) (.object found) ↔
      ∃ name, name ∈ Keyed.keys members ∧ name ∉ Keyed.keys found ∧
        difference = .missingKey name := by
  rw [compare_object counted, List.mem_flatMap]
  constructor
  · rintro ⟨⟨name, x⟩, member, mismatch⟩
    cases present : found.lookup name with
    | none =>
        rw [compareMember_of_lookup_eq_none x present, List.mem_singleton] at mismatch
        cases mismatch
        exact ⟨name, List.mem_map.mpr ⟨_, member, rfl⟩, Keyed.lookup_eq_none_iff.mp present, rfl⟩
    | some y =>
        rw [compareMember_of_lookup_eq_some x present] at mismatch
        exact absurd mismatch mem_map_within_nil
  · rintro ⟨name, asked, missing, rfl⟩
    obtain ⟨⟨_, x⟩, member, rfl⟩ := List.mem_map.mp asked
    refine ⟨_, member, ?_⟩
    rw [compareMember_of_lookup_eq_none x (Keyed.lookup_eq_none_iff.mpr missing)]
    exact List.mem_singleton_self _

end Objects

section Scalars

theorem scalarDifference?_directive {directive text source : String}
    (asked : Directive.pattern? directive = some source) :
    scalarDifference? (.string directive) (.string text) =
      match Pattern.compile source with
      | .error _ => some .malformedPattern
      | .ok pattern => if pattern.occursIn text then none else some (.pattern directive text) := by
  unfold scalarDifference?
  dsimp only
  rw [asked]
  rfl

theorem scalarDifference?_text {expected actual : String}
    (literal : Directive.pattern? expected = none) :
    scalarDifference? (.string expected) (.string actual) =
      if expected = actual then none else some (.values (.string expected) (.string actual)) := by
  simp only [scalarDifference?, literal, Option.map_none, Value.same, beq_iff_eq]

theorem scalarDifference?_bool (expected actual : Bool) :
    scalarDifference? (.bool expected) (.bool actual) =
      if expected = actual then none else some (.values (.bool expected) (.bool actual)) := by
  simp only [scalarDifference?, Value.same, beq_iff_eq]

theorem scalarDifference?_number (expected actual : Number) :
    scalarDifference? (.number expected) (.number actual) =
      if expected.eqv actual then none
      else some (.values (.number expected) (.number actual)) := by
  simp only [scalarDifference?]

/-- The comparison of two strings finds the clash that they have when values count. -/
theorem scalarDifference?_string_iff {expected actual : String} {difference : Difference} :
    options.ignoreValues = false ∧
        scalarDifference? (.string expected) (.string actual) = some difference ↔
      Clash options (.string expected) (.string actual) difference := by
  constructor
  · rintro ⟨valued, differ⟩
    cases asked : Directive.pattern? expected with
    | none =>
        rw [scalarDifference?_text asked] at differ
        split at differ
        · cases differ
        · cases differ
          exact .strings valued asked ‹_›
    | some source =>
        rw [scalarDifference?_directive asked] at differ
        cases read : Pattern.compile source with
        | error fault =>
            rw [read] at differ
            cases differ
            exact .malformedPattern valued asked read
        | ok pattern =>
            rw [read] at differ
            dsimp only at differ
            split at differ
            · cases differ
            · cases differ
              exact .pattern valued asked read (Bool.eq_false_iff.mpr ‹_›)
  · intro clash
    cases clash with
    | kinds differ => exact absurd rfl differ
    | strings valued literal differ =>
        exact ⟨valued, by rw [scalarDifference?_text literal, if_neg differ]⟩
    | malformedPattern valued asked read =>
        exact ⟨valued, by rw [scalarDifference?_directive asked, read]⟩
    | pattern valued asked read missed =>
        refine ⟨valued, ?_⟩
        rw [scalarDifference?_directive asked, read]
        simp only [missed, Bool.false_eq_true, if_false]

theorem scalarDifference?_bool_iff {expected actual : Bool} {difference : Difference} :
    options.ignoreValues = false ∧
        scalarDifference? (.bool expected) (.bool actual) = some difference ↔
      Clash options (.bool expected) (.bool actual) difference := by
  rw [scalarDifference?_bool]
  constructor
  · rintro ⟨valued, differ⟩
    split at differ
    · cases differ
    · cases differ
      exact .bools valued ‹_›
  · intro clash
    cases clash with
    | kinds differ => exact absurd rfl differ
    | bools valued differ => exact ⟨valued, if_neg differ⟩

theorem scalarDifference?_number_iff {expected actual : Number} {difference : Difference} :
    options.ignoreValues = false ∧
        scalarDifference? (.number expected) (.number actual) = some difference ↔
      Clash options (.number expected) (.number actual) difference := by
  rw [scalarDifference?_number]
  constructor
  · rintro ⟨valued, differ⟩
    split at differ
    · cases differ
    · cases differ
      exact .numbers valued (Bool.eq_false_iff.mpr ‹_›)
  · intro clash
    cases clash with
    | kinds differ => exact absurd rfl differ
    | numbers valued differ => exact ⟨valued, if_neg (Bool.eq_false_iff.mp differ)⟩

/-- Two scalars of one kind clash as the comparison of scalars says. -/
theorem scalarDifference?_eq_some_iff (scalar : expected.IsScalar)
    (kinds : expected.kind = actual.kind) {difference : Difference} :
    options.ignoreValues = false ∧ scalarDifference? expected actual = some difference ↔
      Clash options expected actual difference := by
  cases expected with
  | array => exact scalar.elim
  | object => exact scalar.elim
  | null =>
      cases actual with
      | null =>
          refine iff_of_false (fun ⟨_, differ⟩ => ?_) fun clash => ?_
          · simp [scalarDifference?, Value.same] at differ
          · cases clash with
            | kinds differ => exact differ rfl
      | _ => cases kinds
  | bool =>
      cases actual with
      | bool => exact scalarDifference?_bool_iff
      | _ => cases kinds
  | number =>
      cases actual with
      | number => exact scalarDifference?_number_iff
      | _ => cases kinds
  | string =>
      cases actual with
      | string => exact scalarDifference?_string_iff
      | _ => cases kinds

theorem mem_compare_scalar_iff (scalar : expected.IsScalar)
    (kinds : expected.kind = actual.kind) {mismatch : Mismatch} :
    mismatch ∈ compare options expected actual ↔
      mismatch.location = [] ∧ Clash options expected actual mismatch.difference := by
  rw [compare_scalar scalar kinds, ← scalarDifference?_eq_some_iff scalar kinds]
  cases ignored : options.ignoreValues with
  | true => simp
  | false =>
      simp only [Bool.false_eq_true, if_false, Option.mem_toList, Option.map_eq_some_iff, true_and]
      constructor
      · rintro ⟨difference, found, rfl⟩
        exact ⟨rfl, found⟩
      · rintro ⟨root, found⟩
        exact ⟨_, found, by rw [← root]⟩

end Scalars

theorem Descends.kind_eq (descends : Descends options expected actual) :
    expected.kind = actual.kind := by
  cases expected <;> cases actual <;> first | rfl | exact descends.elim

theorem not_descends_of_isScalar (scalar : expected.IsScalar) :
    ¬ Descends options expected actual := by
  cases expected with
  | array => exact scalar.elim
  | object => exact scalar.elim
  | _ => exact id

/-- Behind a step, a comparison finds what the comparison of the parts behind the step finds. -/
theorem mem_compare_cons_iff (wellFormed : expected.WellFormed) {step : Step} {place : Location}
    {difference : Difference} :
    ⟨step :: place, difference⟩ ∈ compare options expected actual ↔
      ∃ x y, Descends options expected actual ∧
        (options.arranged expected).child? step = some x ∧
        (options.arranged actual).child? step = some y ∧
        ⟨place, difference⟩ ∈ compare options x y := by
  by_cases kinds : expected.kind = actual.kind
  swap
  · rw [compare_of_kind_ne kinds]
    exact iff_of_false (by simp) fun ⟨_, _, descends, _⟩ => kinds descends.kind_eq
  cases expected with
  | array items =>
      cases actual with
      | array found =>
          by_cases lengths : items.length = found.length
          · rw [mem_compare_array_cons_iff lengths]
            exact exists₂_congr fun x y => (and_iff_right lengths).symm
          · rw [compare_array_of_length_ne lengths]
            exact iff_of_false (by simp) fun ⟨_, _, descends, _⟩ => lengths descends
      | _ => cases kinds
  | object members =>
      cases actual with
      | object found =>
          by_cases counted : options.disallowExtraFields = true → members.length = found.length
          · rw [mem_compare_object_cons_iff wellFormed.names counted]
            exact exists₂_congr fun x y => (and_iff_right counted).symm
          · obtain ⟨strict, differ⟩ := Classical.not_imp.mp counted
            rw [compare_object_of_length_ne strict differ]
            exact iff_of_false (by simp) fun ⟨_, _, descends, _⟩ => counted descends
      | _ => cases kinds
  | _ =>
      rw [mem_compare_scalar_iff (by trivial) kinds]
      exact iff_of_false nofun fun ⟨_, _, descends, _⟩ => not_descends_of_isScalar (by trivial) descends

theorem missing_iff_of_descends {members found : List (String × Value)}
    (counted : options.disallowExtraFields = true → members.length = found.length)
    {difference : Difference} :
    Missing options (.object members) (.object found) difference ↔
      ∃ name, name ∈ Keyed.keys members ∧ name ∉ Keyed.keys found ∧
        difference = .missingKey name := by
  constructor
  · rintro ⟨_, asked, missing⟩
    exact ⟨_, asked, missing, rfl⟩
  · rintro ⟨name, asked, missing, rfl⟩
    exact .key counted asked missing

theorem not_missing_of_not_descends (stops : ¬ Descends options expected actual)
    {difference : Difference} : ¬ Missing options expected actual difference := by
  rintro ⟨descends, _, _⟩
  exact stops descends

theorem clash_iff_of_kind_ne (differ : expected.kind ≠ actual.kind) {difference : Difference} :
    Clash options expected actual difference ↔ difference = .kinds expected.kind actual.kind := by
  constructor
  · intro clash
    cases clash with
    | kinds => rfl
    | _ => exact absurd rfl differ
  · rintro rfl
    exact .kinds differ

theorem clash_array_iff {items found : List Value} {difference : Difference} :
    Clash options (.array items) (.array found) difference ↔
      items.length ≠ found.length ∧ difference = .arrayLengths items.length found.length := by
  constructor
  · intro clash
    cases clash with
    | kinds differ => exact absurd rfl differ
    | arrayLengths differ => exact ⟨differ, rfl⟩
  · rintro ⟨differ, rfl⟩
    exact .arrayLengths differ

theorem clash_object_iff {members found : List (String × Value)} {difference : Difference} :
    Clash options (.object members) (.object found) difference ↔
      ¬ Descends options (.object members) (.object found) ∧
        difference = .mapLengths members.length found.length := by
  constructor
  · intro clash
    cases clash with
    | kinds differ => exact absurd rfl differ
    | mapLengths strict differ => exact ⟨fun counted => differ (counted strict), rfl⟩
  · rintro ⟨uncounted, rfl⟩
    obtain ⟨strict, differ⟩ := Classical.not_imp.mp uncounted
    exact .mapLengths strict differ

theorem mem_root_singleton {difference other : Difference} :
    (⟨[], difference⟩ : Mismatch) ∈ [⟨[], other⟩] ↔ difference = other := by
  simp

/-- At the root, a comparison finds how the two values clash and which members are missing. -/
theorem mem_compare_nil_iff {difference : Difference} :
    ⟨[], difference⟩ ∈ compare options expected actual ↔
      Clash options expected actual difference ∨ Missing options expected actual difference := by
  by_cases kinds : expected.kind = actual.kind
  swap
  · have stops : ¬ Descends options expected actual := fun descends => kinds descends.kind_eq
    rw [compare_of_kind_ne kinds, or_iff_left (not_missing_of_not_descends stops),
      clash_iff_of_kind_ne kinds]
    exact mem_root_singleton
  cases expected with
  | array items =>
      cases actual with
      | array found =>
          rw [or_iff_left (fun missing => nomatch missing), clash_array_iff]
          by_cases lengths : items.length = found.length
          · exact iff_of_false (not_mem_compare_array_nil lengths) fun clash => clash.1 lengths
          · rw [compare_array_of_length_ne lengths, and_iff_right lengths]
            exact mem_root_singleton
      | _ => cases kinds
  | object members =>
      cases actual with
      | object found =>
          rw [clash_object_iff]
          by_cases counted : options.disallowExtraFields = true → members.length = found.length
          · rw [mem_compare_object_nil_iff counted, missing_iff_of_descends counted,
              or_iff_right fun clash => clash.1 counted]
          · have stops : ¬ Descends options (.object members) (.object found) := counted
            obtain ⟨strict, differ⟩ := Classical.not_imp.mp counted
            rw [compare_object_of_length_ne strict differ, and_iff_right stops,
              or_iff_left (not_missing_of_not_descends stops)]
            exact mem_root_singleton
      | _ => cases kinds
  | _ =>
      rw [mem_compare_scalar_iff (by trivial) kinds,
        or_iff_left (not_missing_of_not_descends (not_descends_of_isScalar (by trivial)))]
      exact and_iff_right rfl

/-- A comparison in order reports the mismatches that there are. -/
theorem mem_compare_iff (ordered : options.ignoreArrayOrder = false)
    (wellFormed : expected.WellFormed) {mismatch : Mismatch} :
    mismatch ∈ compare options expected actual ↔ Reported options expected actual mismatch := by
  obtain ⟨place, difference⟩ := mismatch
  induction place generalizing expected actual with
  | nil => rw [mem_compare_nil_iff, reported_nil_iff]
  | cons step rest ih =>
      rw [mem_compare_cons_iff wellFormed, arranged_of_ordered ordered, arranged_of_ordered ordered,
        reported_cons_iff]
      refine exists₂_congr fun x y => and_congr_right fun _ => and_congr_right fun here => ?_
      exact and_congr_right fun _ => ih (wellFormed.child here)

end ApiMock
