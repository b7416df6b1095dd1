import ApiMock.Proofs.Xml.Grouping

/-!
# What decoded elements show

The value of an element shows its attributes and, by name, the values of its child elements. Without
child elements it shows its text instead: by itself, or next to attributes like a child element of a
reserved name.
-/

set_option autoImplicit false

namespace ApiMock.Xml

variable {entries others attributes otherAttributes : List (String × Value)} {key : String}
  {values items : List Value} {content otherContent : String}

/-- The members for the child elements of an element that has attributes or child elements. -/
def shownEntries (content : String) : List (String × Value) → List (String × Value)
  | [] => [(contentKey, .string content)]
  | entries => entries

/-- Members with one for the attributes, if there are any. -/
def withAttributes : List (String × Value) → List (String × Value) → List (String × Value)
  | [], members => members
  | attributes, members => Keyed.insert attributesKey (.object attributes) members

theorem assemble_eq_object (shown : attributes ≠ [] ∨ entries ≠ []) :
    assemble content attributes entries =
      .object (withAttributes attributes (grouped (shownEntries content entries))) := by
  cases attributes with
  | nil =>
      cases entries with
      | nil => exact (shown.elim (· rfl) (· rfl)).elim
      | cons => rfl
  | cons first rest =>
      cases entries with
      | nil =>
          -- the two members are inserted in the other order here
          have before : attributesKey < contentKey := by decide
          have notBehind : ¬contentKey < attributesKey := by decide
          have differ : contentKey ≠ attributesKey := by decide
          have lone : grouped [(contentKey, .string content)] =
              [(contentKey, .string content)] := rfl
          simp only [assemble, shownEntries, lone, withAttributes, Keyed.ofEntries, List.foldl_cons,
            List.foldl_nil, Keyed.insert, if_neg differ, if_neg differ.symm, if_pos before,
            if_neg notBehind]
      | cons => rfl

/-! ## Groups -/

theorem eq_of_single_eq (noArray : ∀ value ∈ values, value.kind ≠ .array)
    (noOtherArray : ∀ item ∈ items, item.kind ≠ .array) (same : single values = single items) :
    values = items := by
  by_cases one : ∃ value, values = [value]
  · obtain ⟨value, rfl⟩ := one
    by_cases otherOne : ∃ item, items = [item]
    · obtain ⟨item, rfl⟩ := otherOne
      exact congrArg (fun value => [value]) same
    · rw [single_eq_array fun item found => otherOne ⟨item, found⟩] at same
      have kind : value.kind = .array := congrArg Value.kind same
      exact absurd kind (noArray value (List.mem_singleton_self value))
  · rw [single_eq_array fun value found => one ⟨value, found⟩] at same
    by_cases otherOne : ∃ item, items = [item]
    · obtain ⟨item, rfl⟩ := otherOne
      have kind : item.kind = .array := congrArg Value.kind same.symm
      exact absurd kind (noOtherArray item (List.mem_singleton_self item))
    · rw [single_eq_array fun item found => otherOne ⟨item, found⟩] at same
      exact Value.array.inj same

/-- Groups show the values of every name, as arrays are not among the values. -/
theorem grouped_eq_iff (noArray : ∀ entry ∈ entries, entry.2.kind ≠ .array)
    (noOtherArray : ∀ entry ∈ others, entry.2.kind ≠ .array) :
    grouped entries = grouped others ↔
      ∀ key, Keyed.valuesOf key entries = Keyed.valuesOf key others := by
  refine ⟨fun same key => ?_, grouped_eq_of_valuesOf_eq⟩
  have lookups := congrArg (List.lookup key) same
  rw [lookup_grouped, lookup_grouped] at lookups
  by_cases here : key ∈ Keyed.keys entries
  · by_cases there : key ∈ Keyed.keys others
    · rw [if_pos here, if_pos there, Option.some.injEq] at lookups
      refine eq_of_single_eq (fun value member => ?_) (fun value member => ?_) lookups
      · exact noArray _ (Keyed.mem_valuesOf_iff.mp member)
      · exact noOtherArray _ (Keyed.mem_valuesOf_iff.mp member)
    · rw [if_pos here, if_neg there] at lookups
      cases lookups
  · by_cases there : key ∈ Keyed.keys others
    · rw [if_neg here, if_pos there] at lookups
      cases lookups
    · rw [Keyed.valuesOf_eq_nil here, Keyed.valuesOf_eq_nil there]

/-! ## Attributes -/

theorem lookup_withAttributes (members : List (String × Value)) :
    (withAttributes attributes members).lookup key =
      if attributes ≠ [] ∧ key = attributesKey then some (.object attributes)
      else members.lookup key := by
  cases attributes with
  | nil => simp [withAttributes]
  | cons => simp [withAttributes, Keyed.lookup_insert]

theorem mem_withAttributes {members : List (String × Value)} {entry : String × Value}
    (member : entry ∈ withAttributes attributes members) :
    entry = (attributesKey, .object attributes) ∨ entry ∈ members := by
  cases attributes with
  | nil => exact .inr member
  | cons => exact Keyed.mem_insert member

theorem ascending_withAttributes {members : List (String × Value)}
    (ascending : Keyed.Ascending members) :
    Keyed.Ascending (withAttributes attributes members) := by
  cases attributes with
  | nil => exact ascending
  | cons => exact ascending.insert

theorem withAttributes_inj {members changed : List (String × Value)}
    (ascending : Keyed.Ascending members) (changedAscending : Keyed.Ascending changed)
    (free : attributesKey ∉ Keyed.keys members) (otherFree : attributesKey ∉ Keyed.keys changed) :
    withAttributes attributes members = withAttributes otherAttributes changed ↔
      attributes = otherAttributes ∧ members = changed := by
  constructor
  · intro same
    have lookups (key : String) := congrArg (List.lookup key) same
    simp only [lookup_withAttributes] at lookups
    have missing := Keyed.lookup_eq_none_iff.mpr free
    have otherMissing := Keyed.lookup_eq_none_iff.mpr otherFree
    constructor
    · have shown := lookups attributesKey
      rw [missing, otherMissing] at shown
      by_cases none : attributes = [] <;> by_cases otherNone : otherAttributes = [] <;>
        simp_all
    · refine ascending.ext changedAscending fun key => ?_
      by_cases reserved : key = attributesKey
      · rw [reserved, missing, otherMissing]
      · simpa only [reserved, and_false, if_false] using lookups key
  · rintro ⟨rfl, rfl⟩
    rfl

/-! ## Equal values -/

theorem noArray_shownEntries (noArray : ∀ entry ∈ entries, entry.2.kind ≠ .array) :
    ∀ entry ∈ shownEntries content entries, entry.2.kind ≠ .array := by
  cases entries with
  | nil =>
      intro entry member
      rw [List.mem_singleton.mp member]
      nofun
  | cons => exact noArray

theorem attributesKey_notMem_grouped (free : attributesKey ∉ Keyed.keys entries) :
    attributesKey ∉ Keyed.keys (grouped (shownEntries content entries)) := by
  rw [mem_keys_grouped_iff]
  cases entries with
  | nil =>
      have differ : attributesKey ≠ contentKey := by decide
      exact List.not_mem_cons_of_ne_of_not_mem differ List.not_mem_nil
  | cons => exact free

theorem assemble_eq_string_iff {text : String} :
    assemble content attributes entries = .string text ↔
      attributes = [] ∧ entries = [] ∧ content = text := by
  by_cases leaf : attributes = [] ∧ entries = []
  · obtain ⟨rfl, rfl⟩ := leaf
    simp [assemble]
  · rw [assemble_eq_object (not_and_or.mp leaf)]
    exact iff_of_false nofun fun ⟨bare, empty, _⟩ => leaf ⟨bare, empty⟩

/-- Equal values show the same attributes, and the same texts and values of child elements. -/
theorem assemble_eq_iff (noArray : ∀ entry ∈ entries, entry.2.kind ≠ .array)
    (noOtherArray : ∀ entry ∈ others, entry.2.kind ≠ .array)
    (free : attributesKey ∉ Keyed.keys entries) (otherFree : attributesKey ∉ Keyed.keys others) :
    assemble content attributes entries = assemble otherContent otherAttributes others ↔
      attributes = otherAttributes ∧
        (attributes = [] → (entries = [] ↔ others = [])) ∧
        ∀ key, Keyed.valuesOf key (shownEntries content entries) =
          Keyed.valuesOf key (shownEntries otherContent others) := by
  by_cases leaf : attributes = [] ∧ entries = []
  · obtain ⟨rfl, rfl⟩ := leaf
    by_cases otherLeaf : otherAttributes = [] ∧ others = []
    · obtain ⟨rfl, rfl⟩ := otherLeaf
      have texts : Value.string content = .string otherContent ↔
          ∀ key, Keyed.valuesOf key (shownEntries content []) =
            Keyed.valuesOf key (shownEntries otherContent []) := by
        constructor
        · intro same key
          rw [shownEntries, shownEntries, same]
        · intro same
          exact List.singleton_inj.mp (same contentKey)
      simpa [assemble] using texts
    · have otherShown := not_and_or.mp otherLeaf
      rw [assemble_eq_object otherShown]
      refine iff_of_false nofun fun ⟨same, leaves, _⟩ => ?_
      exact otherLeaf ⟨same.symm, (leaves rfl).mp rfl⟩
  · have shown := not_and_or.mp leaf
    by_cases otherLeaf : otherAttributes = [] ∧ others = []
    · obtain ⟨rfl, rfl⟩ := otherLeaf
      rw [assemble_eq_object shown]
      refine iff_of_false nofun fun ⟨same, leaves, _⟩ => ?_
      exact leaf ⟨same, (leaves same).mpr rfl⟩
    · have otherShown := not_and_or.mp otherLeaf
      rw [assemble_eq_object shown, assemble_eq_object otherShown, Value.object.injEq,
        withAttributes_inj (ascending_grouped _) (ascending_grouped _)
          (attributesKey_notMem_grouped free)
          (attributesKey_notMem_grouped otherFree),
        grouped_eq_iff (noArray_shownEntries noArray) (noArray_shownEntries noOtherArray)]
      refine and_congr_right fun same => (and_iff_right fun none => ?_).symm
      subst same
      exact iff_of_false (fun empty => leaf ⟨none, empty⟩) fun empty => otherLeaf ⟨none, empty⟩

end ApiMock.Xml
