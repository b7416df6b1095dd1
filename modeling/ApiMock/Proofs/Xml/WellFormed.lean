import ApiMock.Proofs.Value.Part
import ApiMock.Proofs.Xml.Assembly

/-!
# Documents that are decoded from XML

Decoded elements are built of texts by arrays and by keyed lists of members, so every decoded
document is well-formed.
-/

set_option autoImplicit false

namespace ApiMock.Xml

variable {motive : Value → Prop}

/-- What holds of all values that grouping starts from holds of the members it ends with. -/
theorem motive_of_mem_grouped {entries : List (String × Value)}
    (array : ∀ items, (∀ item ∈ items, motive item) → motive (.array items))
    (holds : ∀ name value, (name, value) ∈ entries → motive value) (name : String) (value : Value)
    (member : (name, value) ∈ grouped entries) : motive value := by
  obtain ⟨⟨_, values⟩, collected, same⟩ := List.mem_map.mp member
  cases same
  have each (value : Value) (inside : value ∈ values) : motive value :=
    holds name value (Keyed.mem_of_mem_collect collected inside)
  unfold single
  split
  · exact each _ (List.mem_singleton_self _)
  · exact array _ each

section

variable (string : ∀ text, motive (.string text))
  (array : ∀ items, (∀ item ∈ items, motive item) → motive (.array items))
  (object : ∀ members, Keyed.Ascending members →
    (∀ name value, (name, value) ∈ members → motive value) → motive (.object members))

include string array object

/-- Induction over the values of elements, which are texts, arrays and keyed lists of members. -/
theorem value_induction (element : Element) : motive element.value := by
  induction element with
  | node element ih =>
      have attributes : motive (.object element.attributeMembers) := by
        refine object _ (Keyed.ascending_ofEntries _) fun name value member => ?_
        obtain ⟨_, _, same⟩ := List.mem_map.mp (Keyed.mem_ofEntries member)
        cases same
        exact string _
      have children : ∀ name value, (name, value) ∈ element.elements.map Element.entry →
          motive value := by
        intro name value member
        obtain ⟨child, inside, same⟩ := List.mem_map.mp member
        cases same
        exact ih child inside
      rw [Element.value_eq]
      by_cases leaf : element.attributeMembers = [] ∧ element.elements.map Element.entry = []
      · rw [assemble_eq_string_iff.mpr ⟨leaf.1, leaf.2, rfl⟩]
        exact string _
      · rw [assemble_eq_object (not_and_or.mp leaf)]
        have shown : ∀ name value, (name, value) ∈ shownEntries element.content
            (element.elements.map Element.entry) → motive value := by
          intro name value member
          cases entries : element.elements.map Element.entry with
          | nil =>
              rw [entries, shownEntries, List.mem_singleton] at member
              cases member
              exact string _
          | cons =>
              rw [entries] at member children
              exact children name value member
        refine object _ (ascending_withAttributes (ascending_grouped _)) fun name value member => ?_
        rcases mem_withAttributes member with same | member
        · cases same
          exact attributes
        · exact motive_of_mem_grouped array shown name value member

theorem documentValue_induction (root : Element) : motive root.documentValue := by
  refine object _ (List.pairwise_singleton _ _) fun name value member => ?_
  cases List.mem_singleton.mp member
  exact value_induction string array object root

end

/-- Every decoded document is well-formed. -/
theorem wellFormed_documentValue (root : Element) : root.documentValue.WellFormed := by
  refine documentValue_induction (fun text => ?_) (fun items each => ?_)
    (fun members ascending each => ?_) root
  · exact .of_isScalar trivial
  · exact Value.wellFormed_array_iff.mpr each
  · exact Value.wellFormed_object_iff.mpr ⟨ascending, each⟩

end ApiMock.Xml
