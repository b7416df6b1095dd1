import ApiMock.Proofs.Compare.Relaxation
import ApiMock.Proofs.Compare.Texts

/-!
# Documents that agree

A document agrees with itself unless one of its strings is a directive that does not match its own
text. Between documents without directives a strict comparison goes both ways. It looks for the
expected members only, but an object that has all of them and no more members than expected has no
others, and the items of two arrays are paired alike whichever of them is expected. Documents of texts
that are no directives agree with no other document if nothing is overlooked.
-/

set_option autoImplicit false

namespace ApiMock

/-! ## Equality of numbers -/

theorem Double.eqv_self (x : Double) : x.eqv x = true :=
  beq_self_eq_true x.units

theorem Double.eqv_comm (x y : Double) : x.eqv y = y.eqv x :=
  Bool.beq_comm

theorem Number.eqv_self (x : Number) : x.eqv x = true := by
  cases x with
  | integer value fits => exact beq_self_eq_true value
  | double value => exact value.eqv_self

theorem Number.eqv_comm (x y : Number) : x.eqv y = y.eqv x := by
  cases x with
  | integer value fits =>
      cases y with
      | integer other otherFits => exact Bool.beq_comm
      | double other =>
          simp only [eqv, toDouble?]
          cases Double.ofInt value with
          | none => rfl
          | some rounded => exact rounded.eqv_comm other
  | double value =>
      cases y with
      | integer other otherFits =>
          simp only [eqv, toDouble?]
          cases Double.ofInt other with
          | none => rfl
          | some rounded => exact value.eqv_comm rounded
      | double other => exact value.eqv_comm other

/-! ## Directives in documents -/

namespace Value

/-- The value is no string that is a directive. -/
def IsLiteral : Value → Prop
  | .string text => Directive.pattern? text = none
  | _ => True

/-- No string in the value is a directive. Names of members are not asked about. -/
def DirectiveFree (value : Value) : Prop := ∀ part, Part part value → part.IsLiteral

/-- If the value is a string, it accepts its own text. -/
def AcceptsItself : Value → Prop
  | .string text => Accepts text text
  | _ => True

theorem IsLiteral.acceptsItself {value : Value} (literal : value.IsLiteral) :
    value.AcceptsItself := by
  cases value with
  | string text => exact (accepts_of_literal literal text).mpr rfl
  | _ => trivial

theorem directiveFree_array_iff {items : List Value} :
    DirectiveFree (.array items) ↔ ∀ item ∈ items, item.DirectiveFree := by
  unfold DirectiveFree
  rw [forall_part_array]
  exact and_iff_right trivial

theorem directiveFree_object_iff {members : List (String × Value)} :
    DirectiveFree (.object members) ↔
      ∀ name value, (name, value) ∈ members → value.DirectiveFree := by
  unfold DirectiveFree
  rw [forall_part_object]
  exact and_iff_right trivial

theorem directiveFree_string_iff {text : String} :
    DirectiveFree (.string text) ↔ Directive.pattern? text = none :=
  forall_part_of_isScalar (by trivial)

theorem directiveFree_number (number : Number) : DirectiveFree (.number number) :=
  (forall_part_of_isScalar (by trivial)).mpr trivial

end Value

variable {options : CompareOptions}

theorem compare_scalar_eq_nil_iff {expected actual : Value} (scalar : expected.IsScalar)
    (kinds : expected.kind = actual.kind) :
    compare options expected actual = [] ↔
      (options.ignoreValues = false → scalarDifference? expected actual = none) := by
  rw [compare_scalar scalar kinds]
  cases ignored : options.ignoreValues with
  | true => simp
  | false => simp

/-! ## Agreement with itself -/

theorem scalarDifference?_self_eq_none_iff {value : Value} (scalar : value.IsScalar) :
    scalarDifference? value value = none ↔ value.AcceptsItself := by
  cases value with
  | array => exact scalar.elim
  | object => exact scalar.elim
  | null => exact iff_of_true rfl trivial
  | bool value =>
      rw [scalarDifference?_bool, if_pos rfl]
      exact iff_of_true rfl trivial
  | number value =>
      rw [scalarDifference?_number, if_pos value.eqv_self]
      exact iff_of_true rfl trivial
  | string text =>
      have agree := @compare_scalar_eq_nil_iff {} (.string text) (.string text) scalar rfl
      rw [compare_strings_eq_nil_iff rfl, forall_prop_of_true rfl] at agree
      exact agree.symm

/-- A document agrees with itself exactly if its strings accept themselves, or values are ignored. -/
theorem compare_self_eq_nil_iff {value : Value} (wellFormed : value.WellFormed) :
    compare options value value = [] ↔
      (options.ignoreValues = false → ∀ part, Value.Part part value → part.AcceptsItself) := by
  induction value with
  | array items ih =>
      have arranged : (∀ item ∈ options.arrange items, compare options item item = []) ↔
          ∀ item ∈ items, compare options item item = [] := by
        simp only [(options.arrange_perm items).mem_iff]
      rw [compare_array_eq_nil_iff, List.forall₂_same, arranged, Value.forall_part_array]
      constructor
      · intro agree valued
        refine ⟨trivial, fun item member => ?_⟩
        exact (ih item member (wellFormed.item member)).mp (agree item member) valued
      · intro accept item member
        refine (ih item member (wellFormed.item member)).mpr fun valued => ?_
        exact (accept valued).2 item member
  | object members ih =>
      rw [compare_object_eq_nil_iff, Value.forall_part_object, and_iff_right fun _ => rfl]
      constructor
      · intro agree valued
        refine ⟨trivial, fun name value member => ?_⟩
        obtain ⟨found, present, same⟩ := agree name value member
        rw [wellFormed.names.lookup_eq_some member] at present
        cases present
        exact (ih name value member (wellFormed.value member)).mp same valued
      · intro accept name value member
        refine ⟨value, wellFormed.names.lookup_eq_some member, ?_⟩
        refine (ih name value member (wellFormed.value member)).mpr fun valued => ?_
        exact (accept valued).2 name value member
  | _ =>
      rw [compare_scalar_eq_nil_iff (by trivial) rfl,
        scalarDifference?_self_eq_none_iff (by trivial), Value.forall_part_of_isScalar (by trivial)]

/-- A document in which no string is a directive agrees with itself under all options, and so does
any document if values are ignored. -/
theorem compare_self_eq_nil {value : Value} (wellFormed : value.WellFormed)
    (literal : options.ignoreValues = true ∨ value.DirectiveFree) :
    compare options value value = [] := by
  rw [compare_self_eq_nil_iff wellFormed]
  intro valued part inside
  rcases literal with ignored | literal
  · rw [ignored] at valued
    cases valued
  · exact (literal part inside).acceptsItself

theorem compare_self_of_colliding_items :
    let item : Value := .object [("k", .string "a.b")]
    let other : Value := .object [("k", .object [("a", .string "b")])]
    let document : Value := .array [other, item, .number (.ofNat 1), item]
    item.canonical = other.canonical ∧ document.WellFormed ∧ document.DirectiveFree ∧
      compare (CompareOptions.unordered {}) document document = [] := by
  intro item other document
  have collide : item.canonical = other.canonical := by decide +kernel
  have wellFormed : document.WellFormed := by decide
  have literal : document.DirectiveFree := by
    have plain : Directive.pattern? "a.b" = none ∧ Directive.pattern? "b" = none := by decide
    simp [document, item, other, Value.directiveFree_array_iff, Value.directiveFree_object_iff,
      Value.directiveFree_string_iff, Value.directiveFree_number, plain]
  exact ⟨collide, wellFormed, literal, compare_self_eq_nil wellFormed (.inr literal)⟩

/-! ## Agreement both ways -/

theorem scalarDifference?_eq_none_of_swapped {expected actual : Value}
    (scalar : expected.IsScalar) (kinds : expected.kind = actual.kind)
    (expectedLiteral : expected.IsLiteral) (actualLiteral : actual.IsLiteral)
    (same : scalarDifference? expected actual = none) :
    scalarDifference? actual expected = none := by
  cases expected with
  | array => exact scalar.elim
  | object => exact scalar.elim
  | null =>
      cases actual with
      | null => rfl
      | _ => cases kinds
  | bool first =>
      cases actual with
      | bool second =>
          rw [scalarDifference?_bool] at same ⊢
          simpa [eq_comm] using same
      | _ => cases kinds
  | number first =>
      cases actual with
      | number second =>
          rw [scalarDifference?_number] at same ⊢
          simpa [first.eqv_comm second] using same
      | _ => cases kinds
  | string first =>
      cases actual with
      | string second =>
          rw [scalarDifference?_text expectedLiteral] at same
          rw [scalarDifference?_text actualLiteral]
          simpa [eq_comm] using same
      | _ => cases kinds

theorem compare_object_eq_nil_of_swapped {expected actual : List (String × Value)}
    (strict : options.disallowExtraFields = true) (expectedAscending : Keyed.Ascending expected)
    (actualAscending : Keyed.Ascending actual)
    (agree : compare options (.object expected) (.object actual) = [])
    (swapped : ∀ name x y, (name, x) ∈ expected → (name, y) ∈ actual →
      compare options x y = [] → compare options y x = []) :
    compare options (.object actual) (.object expected) = [] := by
  obtain ⟨counted, each⟩ := compare_object_eq_nil_iff.mp agree
  -- all expected names are found, and there is no room for others
  have names := keys_eq_of_passed expectedAscending actualAscending (counted strict) each
  refine compare_object_eq_nil_iff.mpr ⟨fun _ => (counted strict).symm, fun name y found => ?_⟩
  have asked : name ∈ Keyed.keys expected := by
    rw [names]
    exact List.mem_map.mpr ⟨(name, y), found, rfl⟩
  obtain ⟨⟨_, x⟩, member, rfl⟩ := List.mem_map.mp asked
  obtain ⟨partner, present, same⟩ := each _ x member
  rw [actualAscending.lookup_eq_some found] at present
  cases present
  exact ⟨x, expectedAscending.lookup_eq_some member, swapped _ x y member found same⟩

theorem compare_eq_nil_of_swapped {expected actual : Value}
    (strict : options.disallowExtraFields = true) (expectedWellFormed : expected.WellFormed)
    (actualWellFormed : actual.WellFormed)
    (literal : options.ignoreValues = false → expected.DirectiveFree ∧ actual.DirectiveFree)
    (agree : compare options expected actual = []) : compare options actual expected = [] := by
  have kinds := kind_eq_of_compare_eq_nil agree
  induction expected generalizing actual with
  | array items ih =>
      cases actual with
      | array found =>
          -- each array is arranged by itself, so the pairs are the same either way
          rw [compare_array_eq_nil_iff] at agree ⊢
          refine (Value.forall₂_mem agree).flip.imp fun y x ⟨xSorted, ySorted, same⟩ => ?_
          have xMember := (options.arrange_perm items).mem_iff.mp xSorted
          have yMember := (options.arrange_perm found).mem_iff.mp ySorted
          refine ih x xMember (expectedWellFormed.item xMember) (actualWellFormed.item yMember) ?_
            same (kind_eq_of_compare_eq_nil same)
          intro valued
          obtain ⟨itemsLiteral, foundLiteral⟩ := literal valued
          exact ⟨Value.directiveFree_array_iff.mp itemsLiteral x xMember,
            Value.directiveFree_array_iff.mp foundLiteral y yMember⟩
      | _ => cases kinds
  | object members ih =>
      cases actual with
      | object found =>
          refine compare_object_eq_nil_of_swapped strict expectedWellFormed.names
            actualWellFormed.names agree ?_
          intro name x y xMember yMember same
          refine ih name x xMember (expectedWellFormed.value xMember)
            (actualWellFormed.value yMember) ?_ same (kind_eq_of_compare_eq_nil same)
          intro valued
          obtain ⟨membersLiteral, foundLiteral⟩ := literal valued
          exact ⟨Value.directiveFree_object_iff.mp membersLiteral name x xMember,
            Value.directiveFree_object_iff.mp foundLiteral name y yMember⟩
      | _ => cases kinds
  | _ =>
      have scalar := isScalar_of_kind_eq (by trivial) kinds
      rw [compare_scalar_eq_nil_iff (by trivial) kinds] at agree
      rw [compare_scalar_eq_nil_iff scalar kinds.symm]
      intro valued
      obtain ⟨expectedLiteral, actualLiteral⟩ := literal valued
      exact scalarDifference?_eq_none_of_swapped (by trivial) kinds
        (expectedLiteral _ .self) (actualLiteral _ .self) (agree valued)

/-- Where no extra members are tolerated and no value that counts is a directive, it makes no
difference which of two documents is the expected one. -/
theorem compare_eq_nil_comm {expected actual : Value}
    (strict : options.disallowExtraFields = true) (expectedWellFormed : expected.WellFormed)
    (actualWellFormed : actual.WellFormed)
    (literal : options.ignoreValues = false → expected.DirectiveFree ∧ actual.DirectiveFree) :
    compare options expected actual = [] ↔ compare options actual expected = [] := by
  constructor
  · exact compare_eq_nil_of_swapped strict expectedWellFormed actualWellFormed literal
  · exact compare_eq_nil_of_swapped strict actualWellFormed expectedWellFormed
      fun valued => (literal valued).symm

theorem compare_eq_nil_comm_of_moved_items :
    let one : Number := .double ⟨false, 0x10000000000000, -52, by decide⟩
    let options := CompareOptions.unordered { disallowExtraFields := true }
    let expected : Value := .array [.string "x", .object [("k", .number (.ofNat 1))]]
    let actual : Value := .array [.object [("k", .number one)], .string "x"]
    expected.WellFormed ∧ actual.WellFormed ∧ expected.DirectiveFree ∧ actual.DirectiveFree ∧
      compare options expected actual = [] ∧ compare options actual expected = [] := by
  intro one options expected actual
  have wellFormed : expected.WellFormed := by decide
  have actualWellFormed : actual.WellFormed := by decide
  have plain : Directive.pattern? "x" = none := by decide
  have literal : expected.DirectiveFree := by
    simp [expected, Value.directiveFree_array_iff, Value.directiveFree_object_iff,
      Value.directiveFree_string_iff, Value.directiveFree_number, plain]
  have actualLiteral : actual.DirectiveFree := by
    simp [actual, Value.directiveFree_array_iff, Value.directiveFree_object_iff,
      Value.directiveFree_string_iff, Value.directiveFree_number, plain]
  have agree : compare options expected actual = [] := by
    rw [compare_unordered_pair]
    decide +kernel
  have swapped := @compare_eq_nil_comm options expected actual rfl wellFormed actualWellFormed
    fun _ => ⟨literal, actualLiteral⟩
  exact ⟨wellFormed, actualWellFormed, literal, actualLiteral, agree, swapped.mp agree⟩

/-! ## Exact agreement -/

/-- The options of a comparison that overlooks nothing. -/
def CompareOptions.strict : CompareOptions := { disallowExtraFields := true }

/-- No document but this one agrees with it if nothing is overlooked. -/
def Value.Exact (expected : Value) : Prop :=
  ∀ actual : Value, actual.WellFormed → (compare .strict expected actual = [] ↔ expected = actual)

namespace Value

theorem exact_string {text : String} (literal : Directive.pattern? text = none) :
    Exact (.string text) := by
  intro actual _
  cases actual with
  | string found =>
      rw [compare_strings_eq_nil_iff rfl, accepts_of_literal literal, string.injEq]
  | _ => exact iff_of_false (fun agree => nomatch kind_eq_of_compare_eq_nil agree) nofun

theorem exact_array {items : List Value} (exact : ∀ item ∈ items, item.Exact) :
    Exact (.array items) := by
  intro actual wellFormed
  cases actual with
  | array found =>
      have itemwise : items = found ↔ List.Forall₂ Eq items found := by rw [List.forall₂_eq_eq_eq]
      rw [compare_array_eq_nil_iff, array.injEq, itemwise]
      refine forall₂_congr fun x member y otherMember => ?_
      have inside := wellFormed.item ((CompareOptions.arrange_perm _ _).mem_iff.mp otherMember)
      exact exact x ((CompareOptions.arrange_perm _ _).mem_iff.mp member) y inside
  | _ => exact iff_of_false (fun agree => nomatch kind_eq_of_compare_eq_nil agree) nofun

theorem exact_object {members : List (String × Value)} (ascending : Keyed.Ascending members)
    (exact : ∀ name value, (name, value) ∈ members → value.Exact) : Exact (.object members) := by
  intro actual wellFormed
  cases actual with
  | object found =>
      rw [compare_object_eq_nil_iff, object.injEq]
      constructor
      · rintro ⟨counted, each⟩
        have names := keys_eq_of_passed ascending wellFormed.names (counted rfl) each
        refine ascending.ext wellFormed.names fun name => ?_
        by_cases asked : name ∈ Keyed.keys members
        · obtain ⟨⟨_, x⟩, member, rfl⟩ := List.mem_map.mp asked
          obtain ⟨y, present, agree⟩ := each _ x member
          have valueWellFormed := wellFormed.value (Keyed.mem_of_lookup present)
          rw [ascending.lookup_eq_some member, present,
            (exact _ x member y valueWellFormed).mp agree]
        · rw [Keyed.lookup_eq_none_iff.mpr asked, Keyed.lookup_eq_none_iff.mpr (names ▸ asked)]
      · rintro rfl
        refine ⟨fun _ => rfl, fun name x member => ⟨x, ascending.lookup_eq_some member, ?_⟩⟩
        exact (exact name x member x (wellFormed.value member)).mpr rfl
  | _ => exact iff_of_false (fun agree => nomatch kind_eq_of_compare_eq_nil agree) nofun

end Value

end ApiMock
