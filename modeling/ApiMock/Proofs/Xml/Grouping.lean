import ApiMock.Proofs.Keyed.Insert
import ApiMock.Xml.Element

/-!
# Child elements by name

The value of an element is put together from its text, its attributes and the values of its child
elements, of which only those of the same name are kept in order.
-/

set_option autoImplicit false

namespace ApiMock.Xml

/-- The element that a node is. -/
def Node.element? : Node → Option Element
  | .element found => some found
  | _ => none

namespace Element

/-- The child elements in the order of the document. -/
def elements (element : Element) : List Element := element.children.filterMap Node.element?

/-- The child elements of one joined name. -/
def named (key : String) (element : Element) : List Element :=
  element.elements.filter fun child => child.name.joined = key

/-- The value of a child element by its name. -/
def entry (element : Element) : String × Value := (element.name.joined, element.value)

theorem sizeOf_lt_of_mem_elements {element child : Element} (member : child ∈ element.elements) :
    sizeOf child < sizeOf element := by
  obtain ⟨node, inside, same⟩ := List.mem_filterMap.mp member
  cases node with
  | element found =>
      cases same
      have smaller := List.sizeOf_lt_of_mem inside
      cases element
      simp only [Node.element.sizeOf_spec] at smaller
      simp only [Element.mk.sizeOf_spec]
      omega
  | _ => cases same

/-- Induction over child elements. -/
@[induction_eliminator]
theorem inductionOnElements {motive : Element → Prop}
    (node : ∀ element : Element, (∀ child ∈ element.elements, motive child) → motive element)
    (element : Element) : motive element :=
  node element fun child _ => inductionOnElements node child
termination_by sizeOf element
decreasing_by
  rename_i member
  exact sizeOf_lt_of_mem_elements member

end Element

theorem childValues_eq (nodes : List Node) :
    childValues nodes = (nodes.filterMap Node.element?).map Element.entry := by
  induction nodes with
  | nil => rw [childValues]; rfl
  | cons node rest ih =>
      cases node with
      | element element => rw [childValues, ih]; rfl
      | _ =>
          rw [childValues, ih]
          · rfl
          · nofun

variable {element : Element} {key : String} {entries others : List (String × Value)}

theorem Element.value_eq (element : Element) :
    element.value =
      assemble element.content element.attributeMembers (element.elements.map entry) := by
  cases element
  rw [Element.value, childValues_eq]
  rfl

theorem Element.valuesOf_entries :
    Keyed.valuesOf key (element.elements.map entry) = (element.named key).map Element.value := by
  rw [Keyed.valuesOf, List.filter_map, List.map_map]
  rfl

/-! ## Groups -/

theorem single_eq_array {values : List Value} (several : ∀ value, values ≠ [value]) :
    single values = .array values := by
  unfold single
  split
  · exact absurd rfl (several _)
  · rfl

/-- Every name with its values, in ascending order of the names. -/
theorem grouped_eq_map (entries : List (String × Value)) :
    grouped entries = (Keyed.keys (Keyed.collect entries)).map fun key =>
      (key, single (Keyed.valuesOf key entries)) := by
  rw [grouped, Keyed.keys, List.map_map]
  apply List.map_congr_left
  intro group member
  have values := Keyed.eq_valuesOf_of_mem_collect member
  exact Prod.ext rfl (congrArg single values)

theorem lookup_grouped : (grouped entries).lookup key =
    if key ∈ Keyed.keys entries then some (single (Keyed.valuesOf key entries)) else none := by
  rw [grouped, Keyed.lookup_map_values fun _ values => single values, Keyed.lookup_collect]
  split <;> rfl

theorem ascending_grouped (entries : List (String × Value)) :
    Keyed.Ascending (grouped entries) := by
  unfold grouped Keyed.Ascending
  rw [List.map_map]
  exact Keyed.ascending_collect entries

theorem mem_keys_grouped_iff : key ∈ Keyed.keys (grouped entries) ↔ key ∈ Keyed.keys entries := by
  rw [grouped, Keyed.keys, List.map_map]
  exact Keyed.mem_keys_collect_iff

theorem keys_collect_eq (same : ∀ key, key ∈ Keyed.keys entries ↔ key ∈ Keyed.keys others) :
    Keyed.keys (Keyed.collect entries) = Keyed.keys (Keyed.collect others) := by
  apply Keyed.keys_eq_of_mem_iff (Keyed.ascending_collect entries) (Keyed.ascending_collect others)
  intro key
  rw [Keyed.mem_keys_collect_iff, Keyed.mem_keys_collect_iff, same]

/-- Only the values of each name in their order count. -/
theorem grouped_eq_of_valuesOf_eq
    (same : ∀ key, Keyed.valuesOf key entries = Keyed.valuesOf key others) :
    grouped entries = grouped others := by
  have keys (key : String) : key ∈ Keyed.keys entries ↔ key ∈ Keyed.keys others := by
    rw [← not_iff_not, ← Keyed.valuesOf_eq_nil_iff, ← Keyed.valuesOf_eq_nil_iff, same]
  rw [grouped_eq_map, grouped_eq_map, keys_collect_eq keys]
  simp only [same]

end ApiMock.Xml
