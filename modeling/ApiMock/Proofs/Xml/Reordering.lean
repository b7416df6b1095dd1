import ApiMock.Proofs.Value.DeepPerm
import ApiMock.Proofs.Xml.Grouping

/-!
# Reordering of child elements

Moving child elements past each other, at any depth, only permutes items of arrays in the decoded
value, and leaves it alone where elements of the same name stay in their order.
-/

set_option autoImplicit false

namespace ApiMock.Xml

open List (Forall₂)
open Value (DeepPerm MemberPerm)

/-- The node itself unless it is an element, of which only the place is kept. -/
def Node.aside? : Node → Option Node
  | .element _ => none
  | node => some node

/-- The second element is the first one with child elements moved to each other's places, at any
depth, as far as a rule allows. Texts, comments and instructions stay where they are. -/
inductive Reordered (rule : List Element → List Element → Prop) : Element → Element → Prop where
  | intro {element other : Element} {moved : List Element} :
      other.name = element.name →
      other.attributes = element.attributes →
      other.children.map Node.aside? = element.children.map Node.aside? →
      Forall₂ (Reordered rule) element.elements moved →
      rule moved other.elements →
      Reordered rule element other

/-- A permutation that keeps the order of siblings of the same name. -/
def SiblingsInOrder (siblings others : List Element) : Prop :=
  siblings.Perm others ∧
    ∀ key, (siblings.filter fun child => child.name.joined = key) =
      others.filter fun child => child.name.joined = key

variable {rule : List Element → List Element → Prop} {element other tree : Element} {key : String}
  {entries changed others : List (String × Value)} {values items permuted : List Value}

theorem content_eq_of_asides
    (same : other.children.map Node.aside? = element.children.map Node.aside?) :
    other.content = element.content := by
  have fromAside (node : Node) : node.content = (node.aside?.map Node.content).getD "" := by
    cases node <;> rfl
  have fromAsides (nodes : List Node) : nodes.map Node.content =
      (nodes.map Node.aside?).map fun aside? => (aside?.map Node.content).getD "" := by
    rw [List.map_map]
    exact List.map_congr_left fun node _ => fromAside node
  rw [Element.content, Element.content, fromAsides, fromAsides element.children, same]

theorem attributeMembers_eq (same : other.attributes = element.attributes) :
    other.attributeMembers = element.attributeMembers := by
  rw [Element.attributeMembers, Element.attributeMembers, same]

namespace SiblingsInOrder

theorem refl (siblings : List Element) : SiblingsInOrder siblings siblings :=
  ⟨.refl siblings, fun _ => rfl⟩

/-- Neighbours of different names may pass each other. -/
theorem swap {first second : Element} (differ : first.name.joined ≠ second.name.joined)
    (rest : List Element) :
    SiblingsInOrder (first :: second :: rest) (second :: first :: rest) := by
  refine ⟨.swap second first rest, fun key => ?_⟩
  simp only [List.filter_cons]
  by_cases named : first.name.joined = key
  · subst named
    simp [differ.symm]
  · simp [named]

end SiblingsInOrder

theorem Reordered.refl (stay : ∀ siblings, rule siblings siblings) (element : Element) :
    Reordered rule element element := by
  induction element with
  | node element ih => exact .intro rfl rfl rfl (List.forall₂_same.mpr ih) (stay _)

theorem Reordered.name_eq (reordered : Reordered rule element other) :
    other.name = element.name := by
  cases reordered with
  | intro names => exact names

/-! ## Permuted groups -/

theorem forall₂_valuesOf (related : Forall₂ MemberPerm entries changed) :
    Forall₂ DeepPerm (Keyed.valuesOf key entries) (Keyed.valuesOf key changed) := by
  induction related with
  | nil => exact .nil
  | @cons old new _ _ first _ ih =>
      obtain ⟨names, values⟩ := first
      by_cases same : old.1 = key
      · have sameNew : new.1 = key := names.symm.trans same
        simp only [Keyed.valuesOf, same, sameNew, decide_true, List.filter_cons_of_pos,
          List.map_cons]
        exact .cons values ih
      · have otherNew : new.1 ≠ key := fun found => same (names.trans found)
        simp only [Keyed.valuesOf, same, otherNew, decide_false, Bool.false_eq_true,
          not_false_eq_true, List.filter_cons_of_neg]
        exact ih

theorem single_deepPerm (changes : Forall₂ DeepPerm values items) (perm : items.Perm permuted) :
    DeepPerm (single values) (single permuted) := by
  -- both sides are written as an array or neither, since they have as many values
  have lengths := changes.length_eq.trans perm.length_eq
  by_cases one : ∃ value, values = [value]
  · obtain ⟨value, rfl⟩ := one
    obtain ⟨new, rfl⟩ := List.length_eq_one_iff.mp lengths.symm
    rw [List.perm_singleton.mp perm] at changes
    cases changes with
    | cons first => exact first
  · have several : single values = .array values :=
      single_eq_array fun value same => one ⟨value, same⟩
    have severalNew : single permuted = .array permuted := by
      refine single_eq_array fun value same => one ?_
      exact List.length_eq_one_iff.mp (lengths.trans (same ▸ rfl))
    rw [several, severalNew]
    exact .array changes perm

theorem grouped_memberPerm (changes : Forall₂ MemberPerm entries changed)
    (perm : changed.Perm others) : Forall₂ MemberPerm (grouped entries) (grouped others) := by
  have names := (Value.forall₂_memberPerm_iff.mp changes).1
  have keys (key : String) : key ∈ Keyed.keys entries ↔ key ∈ Keyed.keys others := by
    rw [names]
    exact (perm.map Prod.fst).mem_iff
  rw [grouped_eq_map, grouped_eq_map, keys_collect_eq keys, List.forall₂_map_left_iff,
    List.forall₂_map_right_iff, List.forall₂_same]
  intro key _
  exact ⟨rfl, single_deepPerm (forall₂_valuesOf changes) (Keyed.valuesOf_perm perm)⟩

theorem forall₂_insert {value : Value} (related : Forall₂ MemberPerm entries changed) :
    Forall₂ MemberPerm (Keyed.insert key value entries) (Keyed.insert key value changed) := by
  have added : MemberPerm (key, value) (key, value) := ⟨rfl, .refl value⟩
  induction related with
  | nil => exact .cons added .nil
  | @cons old new _ _ first rest ih =>
      obtain ⟨name, _⟩ := old
      obtain ⟨newName, _⟩ := new
      have same : name = newName := first.1
      subst same
      rw [Keyed.insert, Keyed.insert]
      split
      · exact .cons added rest
      · split
        · exact .cons added (.cons first rest)
        · exact .cons first ih

theorem assemble_deepPerm (content : String) (attributes : List (String × Value))
    (changes : Forall₂ MemberPerm entries changed) (perm : changed.Perm others) :
    DeepPerm (assemble content attributes entries) (assemble content attributes others) := by
  have groups := grouped_memberPerm changes perm
  have lengths := changes.length_eq.trans perm.length_eq
  cases entries with
  | nil =>
      rw [List.length_eq_zero_iff.mp lengths.symm]
      exact .refl _
  | cons first rest =>
      cases others with
      | nil => cases lengths
      | cons new others =>
          cases attributes with
          | nil => exact Value.deepPerm_object_iff.mpr groups
          | cons => exact Value.deepPerm_object_iff.mpr (forall₂_insert groups)

theorem assemble_eq_of_valuesOf_eq (content : String) (attributes : List (String × Value))
    (same : ∀ key, Keyed.valuesOf key entries = Keyed.valuesOf key others) :
    assemble content attributes entries = assemble content attributes others := by
  have groups := grouped_eq_of_valuesOf_eq same
  have empty : entries = [] ↔ others = [] := by
    simp only [Keyed.eq_nil_iff_valuesOf, same]
  cases entries with
  | nil => rw [empty.mp rfl]
  | cons =>
      cases others with
      | nil => cases empty.mpr rfl
      | cons => cases attributes <;> simp only [assemble, groups]

/-! ## Reordered trees -/

namespace Reordered

theorem value_deepPerm (reordered : Reordered List.Perm tree other) :
    DeepPerm tree.value other.value := by
  induction tree generalizing other with
  | node element ih =>
      cases reordered with
      | @intro _ _ moved names attributes asides changes perm =>
          have entries : Forall₂ MemberPerm (element.elements.map Element.entry)
              (moved.map Element.entry) := by
            rw [List.forall₂_map_left_iff, List.forall₂_map_right_iff]
            refine (Value.forall₂_mem changes).imp fun child new ⟨member, _, reordered⟩ => ?_
            exact ⟨congrArg Name.joined reordered.name_eq.symm, ih child member reordered⟩
          rw [Element.value_eq, Element.value_eq, content_eq_of_asides asides,
            attributeMembers_eq attributes]
          exact assemble_deepPerm _ _ entries (perm.map _)

theorem value_eq (reordered : Reordered SiblingsInOrder tree other) : other.value = tree.value := by
  induction tree generalizing other with
  | node element ih =>
      cases reordered with
      | @intro _ _ moved names attributes asides changes inOrder =>
          have entries : moved.map Element.entry = element.elements.map Element.entry := by
            refine Value.map_eq_of_forall₂ changes fun child member new reordered => ?_
            exact Prod.ext (congrArg Name.joined reordered.name_eq) (ih child member reordered)
          rw [Element.value_eq, Element.value_eq, content_eq_of_asides asides,
            attributeMembers_eq attributes]
          -- the rule fixes the order within each name, and the value knows no other order
          refine assemble_eq_of_valuesOf_eq _ _ fun key => ?_
          rw [← entries, Keyed.valuesOf, Keyed.valuesOf, List.filter_map, List.filter_map]
          exact congrArg (fun children => (children.map Element.entry).map Prod.snd)
            (inOrder.2 key).symm

end Reordered

/-- Where child elements stand among their siblings shows in the order of items only, and not at all
as long as siblings of one name do not pass each other. -/
theorem documentValue_of_reordered (tree other : Element) :
    (Reordered List.Perm tree other → DeepPerm tree.documentValue other.documentValue) ∧
      (Reordered SiblingsInOrder tree other → other.documentValue = tree.documentValue) := by
  constructor
  · intro reordered
    rw [Element.documentValue, Element.documentValue, reordered.name_eq]
    exact Value.deepPerm_object_iff.mpr (.cons ⟨rfl, reordered.value_deepPerm⟩ .nil)
  · intro reordered
    rw [Element.documentValue, Element.documentValue, reordered.name_eq, reordered.value_eq]

/-- A neighbour of another name may be passed, one of the same name may not: that moves an item. -/
theorem documentValue_of_reordered_neighbours :
    let named (localName : String) : Name := ⟨"urn:x", localName⟩
    let leaf (localName text : String) : Element := ⟨named localName, [], [.text text]⟩
    let tree (x y z : Element) : Element :=
      ⟨named "r", [(⟨"", "id"⟩, "7")],
        [.element x, .text "t", .element y, .comment "c", .element z]⟩
    let pair (x y : Element) : Element := ⟨named "b", [(named "k", "v")], [.element x, .element y]⟩
    let original := tree (leaf "a" "1") (pair (leaf "c" "1") (leaf "c" "2")) (leaf "a" "2")
    let kept := tree (pair (leaf "c" "1") (leaf "c" "2")) (leaf "a" "1") (leaf "a" "2")
    let mixed := tree (leaf "a" "2") (pair (leaf "c" "2") (leaf "c" "1")) (leaf "a" "1")
    Reordered SiblingsInOrder original kept ∧ kept.documentValue = original.documentValue ∧
      Reordered List.Perm original mixed ∧
        DeepPerm original.documentValue mixed.documentValue := by
  intro named leaf tree pair original kept mixed
  have keptOrder : Reordered SiblingsInOrder original kept := by
    have unchanged := Reordered.refl SiblingsInOrder.refl
    have differ : (leaf "a" "1").name.joined ≠
        (pair (leaf "c" "1") (leaf "c" "2")).name.joined := by decide
    exact .intro rfl rfl rfl (List.forall₂_same.mpr fun child _ => unchanged child)
      (SiblingsInOrder.swap differ _)
  have mixedOrder : Reordered List.Perm original mixed := by
    have unchanged := Reordered.refl List.Perm.refl
    have swapped : Reordered List.Perm (pair (leaf "c" "1") (leaf "c" "2"))
        (pair (leaf "c" "2") (leaf "c" "1")) :=
      .intro rfl rfl rfl (List.forall₂_same.mpr fun child _ => unchanged child) (.swap _ _ _)
    exact .intro rfl rfl rfl (.cons (unchanged _) (.cons swapped (.cons (unchanged _) .nil)))
      (List.reverse_perm _).symm
  exact ⟨keptOrder, (documentValue_of_reordered original kept).2 keptOrder, mixedOrder,
    (documentValue_of_reordered original mixed).1 mixedOrder⟩

end ApiMock.Xml
