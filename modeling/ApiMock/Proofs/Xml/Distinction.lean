import ApiMock.Proofs.Value.DeepPerm
import ApiMock.Proofs.Xml.Assembly
import ApiMock.Proofs.Xml.PlainNames

/-!
# Documents with the same value

Two documents are decoded into the same value exactly if their elements correspond to each other:
same names, same attributes, same texts where there are no child elements, and the same child
elements of every name. There is one exception. Next to attributes a text is written like a child
element of a reserved name, so it is not told from such a child element.
-/

set_option autoImplicit false

namespace ApiMock.Xml

open List (Forall₂)

namespace Element

/-- The value of an attribute, of which the last one with a name counts. -/
def attribute? (element : Element) (name : Name) : Option String :=
  element.attributes.reverse.lookup name

/-- Two elements have the same attributes in any order. -/
def SameAttributes (first second : Element) : Prop :=
  ∀ name, first.attribute? name = second.attribute? name

/-- The elements have the same names, attributes and texts, and child elements that correspond
likewise, by name and in their order. Text next to child elements does not count. Besides, elements
that are confused with each other may stand in for each other. -/
inductive EquivalentUpTo (confused : Element → Element → Prop) : Element → Element → Prop where
  | text {first second : Element} :
      first.name.joined = second.name.joined → first.SameAttributes second →
      first.elements = [] → second.elements = [] → first.content = second.content →
      EquivalentUpTo confused first second
  | children {first second : Element} :
      first.name.joined = second.name.joined → first.SameAttributes second →
      first.elements ≠ [] → second.elements ≠ [] →
      (∀ key, Forall₂ (EquivalentUpTo confused) (first.named key) (second.named key)) →
      EquivalentUpTo confused first second
  | confused {first second : Element} :
      first.name.joined = second.name.joined → first.SameAttributes second →
      confused first second →
      EquivalentUpTo confused first second

/-- No elements stand in for each other. -/
def Equivalent : Element → Element → Prop := EquivalentUpTo fun _ _ => False

/-- The first element has attributes and nothing but text in it. The second one has the text in its
only child element, which has nothing else and a name that is reserved for such texts. -/
structure ShowsText (first second : Element) : Prop where
  attributes : first.attributes ≠ []
  noElements : first.elements = []
  child : ∃ child, second.elements = [child] ∧ child.name.joined = contentKey ∧
    child.attributes = [] ∧ child.elements = [] ∧ child.content = first.content

/-- One of the elements shows its text as the other one shows a child element. -/
def Ambiguous (first second : Element) : Prop := first.ShowsText second ∨ second.ShowsText first

end Element

variable {first second : Element} {name : Name} {key : String}

open Element

/-! ## Attributes -/

theorem lookup_joined {attributes : List (Name × String)}
    (plain : ∀ entry ∈ attributes, IsPlain entry.1.localName) (namePlain : IsPlain name.localName) :
    (attributes.map fun (name, value) => (name.joined, Value.string value)).lookup name.joined =
      (attributes.lookup name).map .string := by
  induction attributes with
  | nil => rfl
  | cons entry rest ih =>
      obtain ⟨other, value⟩ := entry
      obtain ⟨here, behind⟩ := List.forall_mem_cons.mp plain
      rw [List.map_cons, List.lookup_cons, List.lookup_cons, ih behind]
      by_cases same : name = other
      · subst same
        simp
      · have differ : name.joined ≠ other.joined := fun joined =>
          same (eq_of_joined_eq namePlain here joined)
        rw [beq_eq_false_iff_ne.mpr same, beq_eq_false_iff_ne.mpr differ]

theorem lookup_attributeMembers (plain : ∀ entry ∈ first.attributes, IsPlain entry.1.localName)
    (namePlain : IsPlain name.localName) :
    first.attributeMembers.lookup name.joined = (first.attribute? name).map .string := by
  rw [attributeMembers, Keyed.lookup_ofEntries, ← List.map_reverse, attribute?]
  exact lookup_joined (fun entry member => plain entry (List.mem_reverse.mp member)) namePlain

theorem attribute?_eq_none (plain : ∀ entry ∈ first.attributes, IsPlain entry.1.localName)
    (notPlain : ¬IsPlain name.localName) : first.attribute? name = none := by
  refine List.lookup_eq_none_iff.mpr fun entry member => bne_iff_ne.mpr ?_
  rintro rfl
  exact notPlain (plain entry (List.mem_reverse.mp member))

theorem lookup_attributeMembers_eq_none
    (plain : ∀ entry ∈ first.attributes, IsPlain entry.1.localName)
    (unknown : ∀ name : Name, IsPlain name.localName → name.joined ≠ key) :
    first.attributeMembers.lookup key = none := by
  refine Keyed.lookup_eq_none_iff.mpr fun member => ?_
  obtain ⟨entry, inside, same⟩ := List.mem_map.mp member
  obtain ⟨⟨name, _⟩, written, rfl⟩ := List.mem_map.mp (Keyed.mem_ofEntries inside)
  exact unknown name (plain _ written) same

theorem attributeMembers_eq_nil_iff : first.attributeMembers = [] ↔ first.attributes = [] := by
  rw [attributeMembers, Keyed.ofEntries_eq_nil_iff, List.map_eq_nil_iff]

theorem attributes_eq_nil_iff : first.attributes = [] ↔ ∀ name, first.attribute? name = none := by
  constructor
  · intro bare name
    rw [attribute?, bare]
    rfl
  · intro missing
    refine List.eq_nil_iff_forall_not_mem.mpr fun entry member => ?_
    have differ := List.lookup_eq_none_iff.mp (missing entry.1) entry (List.mem_reverse.mpr member)
    exact absurd differ (by simp)

theorem Element.SameAttributes.eq_nil_iff (same : first.SameAttributes second) :
    first.attributes = [] ↔ second.attributes = [] := by
  rw [attributes_eq_nil_iff, attributes_eq_nil_iff]
  exact forall_congr' fun name => by rw [same name]

theorem attributeMembers_eq_iff (plain : ∀ entry ∈ first.attributes, IsPlain entry.1.localName)
    (otherPlain : ∀ entry ∈ second.attributes, IsPlain entry.1.localName) :
    first.attributeMembers = second.attributeMembers ↔ first.SameAttributes second := by
  constructor
  · intro same name
    by_cases namePlain : IsPlain name.localName
    · have lookups := congrArg (List.lookup name.joined) same
      rw [lookup_attributeMembers plain namePlain, lookup_attributeMembers otherPlain namePlain]
        at lookups
      exact Option.map_injective (fun _ _ => Value.string.inj) lookups
    · rw [attribute?_eq_none plain namePlain, attribute?_eq_none otherPlain namePlain]
  · intro same
    refine (Keyed.ascending_ofEntries _).ext (Keyed.ascending_ofEntries _) fun key => ?_
    -- a key that no name is joined to is missing on both sides
    by_cases known : ∃ name : Name, IsPlain name.localName ∧ name.joined = key
    · obtain ⟨name, namePlain, rfl⟩ := known
      have lookups := lookup_attributeMembers plain namePlain
      rw [same, ← lookup_attributeMembers otherPlain namePlain] at lookups
      exact lookups
    · have unknown (name : Name) (namePlain : IsPlain name.localName) : name.joined ≠ key :=
        fun joined => known ⟨name, namePlain, joined⟩
      exact (lookup_attributeMembers_eq_none plain unknown).trans
        (lookup_attributeMembers_eq_none otherPlain unknown).symm

/-! ## Child elements -/

theorem value_kind_ne_array (element : Element) : element.value.kind ≠ .array := by
  rw [value_eq]
  unfold assemble
  split <;> nofun

theorem value_eq_string_iff {text : String} :
    first.value = .string text ↔
      first.attributes = [] ∧ first.elements = [] ∧ first.content = text := by
  rw [value_eq, assemble_eq_string_iff, attributeMembers_eq_nil_iff, List.map_eq_nil_iff]

theorem kind_ne_array_of_mem_entries :
    ∀ entry ∈ first.elements.map Element.entry, entry.2.kind ≠ .array := by
  intro entry member
  obtain ⟨child, _, rfl⟩ := List.mem_map.mp member
  exact value_kind_ne_array child

theorem attributesKey_notMem_entries (plain : first.PlainNames) :
    attributesKey ∉ Keyed.keys (first.elements.map Element.entry) := by
  obtain ⟨_, _, children⟩ := plain
  intro member
  rw [Keyed.keys, List.map_map] at member
  obtain ⟨child, inside, same⟩ := List.mem_map.mp member
  obtain ⟨childPlain, _, _⟩ := children child inside
  exact joined_ne_attributesKey childPlain same

/-- What an element shows of its content next to attributes. -/
def Element.shown (element : Element) : List (String × Value) :=
  shownEntries element.content (element.elements.map Element.entry)

theorem value_eq_iff_shown (plain : first.PlainNames) (otherPlain : second.PlainNames) :
    first.value = second.value ↔
      first.SameAttributes second ∧
        (first.attributes = [] → (first.elements = [] ↔ second.elements = [])) ∧
        ∀ key, Keyed.valuesOf key first.shown = Keyed.valuesOf key second.shown := by
  have free := attributesKey_notMem_entries plain
  have otherFree := attributesKey_notMem_entries otherPlain
  obtain ⟨_, attributes, _⟩ := plain
  obtain ⟨_, otherAttributes, _⟩ := otherPlain
  rw [first.value_eq, second.value_eq, assemble_eq_iff kind_ne_array_of_mem_entries
    kind_ne_array_of_mem_entries free otherFree, attributeMembers_eq_nil_iff,
    attributeMembers_eq_iff attributes otherAttributes, List.map_eq_nil_iff, List.map_eq_nil_iff]
  rfl

theorem shown_of_elements_eq_nil (none : first.elements = []) :
    first.shown = [(contentKey, .string first.content)] := by
  rw [shown, none]
  rfl

theorem shown_of_elements_ne_nil (some : first.elements ≠ []) :
    first.shown = first.elements.map Element.entry := by
  rw [shown]
  cases children : first.elements with
  | nil => exact absurd children some
  | cons => rfl

theorem valuesOf_shown (some : first.elements ≠ []) :
    Keyed.valuesOf key first.shown = (first.named key).map Element.value := by
  rw [shown_of_elements_ne_nil some, valuesOf_entries]

/-- Text is shown like the child elements of another element if these are one for the text. -/
theorem shown_eq_text_iff (none : first.elements = []) (some : second.elements ≠ []) :
    (∀ key, Keyed.valuesOf key second.shown = Keyed.valuesOf key first.shown) ↔
      ∃ child, second.elements = [child] ∧ child.name.joined = contentKey ∧
        child.attributes = [] ∧ child.elements = [] ∧ child.content = first.content := by
  rw [shown_of_elements_eq_nil none, Keyed.eq_singleton_iff_valuesOf,
    shown_of_elements_ne_nil some, List.map_eq_singleton_iff]
  simp only [entry, Prod.mk.injEq, value_eq_string_iff]

theorem Element.ShowsText.valuesOf_shown (shows : first.ShowsText second) (key : String) :
    Keyed.valuesOf key second.shown = Keyed.valuesOf key first.shown := by
  have some : second.elements ≠ [] := by
    obtain ⟨_, found, _⟩ := shows.child
    rw [found]
    exact List.cons_ne_nil _ _
  exact (shown_eq_text_iff shows.noElements some).mpr shows.child key

/-! ## The correspondence -/

theorem Element.EquivalentUpTo.name_eq {confused : Element → Element → Prop}
    (equivalent : EquivalentUpTo confused first second) :
    first.name.joined = second.name.joined := by
  cases equivalent <;> assumption

section

variable (children : ∀ key,
  (first.named key).map Element.value = (second.named key).map Element.value ↔
    Forall₂ (EquivalentUpTo Ambiguous) (first.named key) (second.named key))

include children

theorem equivalentUpTo_of_shown (names : first.name.joined = second.name.joined)
    (attributes : first.SameAttributes second)
    (leaves : first.attributes = [] → (first.elements = [] ↔ second.elements = []))
    (shown : ∀ key, Keyed.valuesOf key first.shown = Keyed.valuesOf key second.shown) :
    EquivalentUpTo Ambiguous first second := by
  -- only where one side has a text and the other side child elements they are confused
  by_cases none : first.elements = []
  · by_cases otherNone : second.elements = []
    · have texts := shown contentKey
      rw [shown_of_elements_eq_nil none, shown_of_elements_eq_nil otherNone] at texts
      have content := Value.string.inj (List.singleton_inj.mp texts)
      exact .text names attributes none otherNone content
    · have attributed (bare : first.attributes = []) : False := otherNone ((leaves bare).mp none)
      have child := (shown_eq_text_iff none otherNone).mp fun key => (shown key).symm
      exact .confused names attributes (.inl ⟨attributed, none, child⟩)
  · by_cases otherNone : second.elements = []
    · have attributed (bare : second.attributes = []) : False :=
        none ((leaves (attributes.eq_nil_iff.mpr bare)).mpr otherNone)
      have child := (shown_eq_text_iff otherNone none).mp shown
      exact .confused names attributes (.inr ⟨attributed, otherNone, child⟩)
    · refine .children names attributes none otherNone fun key => (children key).mp ?_
      rw [← valuesOf_shown none, shown key, valuesOf_shown otherNone]

theorem shown_of_equivalentUpTo (equivalent : EquivalentUpTo Ambiguous first second) :
    first.SameAttributes second ∧
      (first.attributes = [] → (first.elements = [] ↔ second.elements = [])) ∧
      ∀ key, Keyed.valuesOf key first.shown = Keyed.valuesOf key second.shown := by
  cases equivalent with
  | text _ attributes none otherNone content =>
      refine ⟨attributes, fun _ => iff_of_true none otherNone, fun key => ?_⟩
      rw [shown_of_elements_eq_nil none, shown_of_elements_eq_nil otherNone, content]
  | children _ attributes some otherSome related =>
      refine ⟨attributes, fun _ => iff_of_false some otherSome, fun key => ?_⟩
      rw [valuesOf_shown some, valuesOf_shown otherSome]
      exact (children key).mpr (related key)
  | confused _ attributes ambiguous =>
      rcases ambiguous with shows | shows
      · refine ⟨attributes, fun bare => absurd bare shows.attributes, fun key => ?_⟩
        exact (shows.valuesOf_shown key).symm
      · refine ⟨attributes, fun bare => ?_, shows.valuesOf_shown⟩
        exact absurd (attributes.eq_nil_iff.mp bare) shows.attributes

end

theorem value_eq_iff (plain : first.PlainNames) (otherPlain : second.PlainNames)
    (names : first.name.joined = second.name.joined) :
    first.value = second.value ↔ EquivalentUpTo Ambiguous first second := by
  induction first generalizing second with
  | node first ih =>
      have children (key : String) :
          (first.named key).map Element.value = (second.named key).map Element.value ↔
            Forall₂ (EquivalentUpTo Ambiguous) (first.named key) (second.named key) := by
        obtain ⟨_, _, plainChildren⟩ := plain
        obtain ⟨_, _, plainOthers⟩ := otherPlain
        rw [← List.forall₂_eq_eq_eq, List.forall₂_map_left_iff, List.forall₂_map_right_iff]
        refine Value.forall₂_congr fun child member other otherMember => ?_
        obtain ⟨inside, named⟩ := List.mem_filter.mp member
        obtain ⟨otherInside, otherNamed⟩ := List.mem_filter.mp otherMember
        refine ih child inside (plainChildren child inside) (plainOthers other otherInside) ?_
        exact (of_decide_eq_true named).trans (of_decide_eq_true otherNamed).symm
      rw [value_eq_iff_shown plain otherPlain]
      constructor
      · rintro ⟨attributes, leaves, shown⟩
        exact equivalentUpTo_of_shown children names attributes leaves shown
      · exact shown_of_equivalentUpTo children

/-- The decoded value tells all documents apart that do not correspond to each other. -/
theorem documentValue_eq_iff (plain : first.PlainNames) (otherPlain : second.PlainNames) :
    first.documentValue = second.documentValue ↔ EquivalentUpTo Ambiguous first second := by
  have single : first.documentValue = second.documentValue ↔
      first.name.joined = second.name.joined ∧ first.value = second.value := by
    simp only [documentValue, Value.object.injEq, List.cons.injEq, Prod.mk.injEq, and_true]
  rw [single]
  constructor
  · rintro ⟨names, values⟩
    exact (value_eq_iff plain otherPlain names).mp values
  · intro equivalent
    exact ⟨equivalent.name_eq, (value_eq_iff plain otherPlain equivalent.name_eq).mpr equivalent⟩

end ApiMock.Xml
