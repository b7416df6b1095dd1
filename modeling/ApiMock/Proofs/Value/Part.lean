import ApiMock.Proofs.Keyed.Insert
import ApiMock.Proofs.Keyed.Lookup
import ApiMock.Value.Basic
import Mathlib.Logic.Basic

/-!
# Parts of values

Induction over items and members, and the parts that a value is built of. An invariant of documents
is stated of all parts at once, so that it passes on to items and members without a proof of its own.
-/

set_option autoImplicit false

namespace ApiMock.Value

/-- Induction over the items of arrays and the values of members. -/
@[induction_eliminator]
theorem inductionOnParts {motive : Value → Prop}
    (null : motive .null) (bool : ∀ value, motive (.bool value))
    (number : ∀ value, motive (.number value)) (string : ∀ value, motive (.string value))
    (array : ∀ items, (∀ item ∈ items, motive item) → motive (.array items))
    (object : ∀ members, (∀ name value, (name, value) ∈ members → motive value) →
      motive (.object members)) : ∀ value, motive value
  | .null => null
  | .bool value => bool value
  | .number value => number value
  | .string value => string value
  | .array items => array items fun item _ =>
      inductionOnParts null bool number string array object item
  | .object members => object members fun _ value _ =>
      inductionOnParts null bool number string array object value
termination_by value => sizeOf value
decreasing_by
  · rename_i member
    have smaller := List.sizeOf_lt_of_mem member
    simp only [Value.array.sizeOf_spec]
    omega
  · rename_i name member
    have smaller := List.sizeOf_lt_of_mem member
    simp only [Prod.mk.sizeOf_spec] at smaller
    simp only [Value.object.sizeOf_spec]
    omega

/-- A value is a part of itself, and the parts of items and members are parts of the whole. -/
inductive Part : Value → Value → Prop where
  | self {value} : Part value value
  | item {part item items} : item ∈ items → Part part item → Part part (.array items)
  | member {part name value members} :
      (name, value) ∈ members → Part part value → Part part (.object members)

/-- The values that have no other parts. -/
def IsScalar : Value → Prop
  | .array _ | .object _ => False
  | _ => True

section

variable {property : Value → Prop}

theorem forall_part_array {items : List Value} :
    (∀ part, Part part (.array items) → property part) ↔
      property (.array items) ∧ ∀ item ∈ items, ∀ part, Part part item → property part := by
  constructor
  · intro all
    exact ⟨all _ .self, fun item member part inside => all part (.item member inside)⟩
  · rintro ⟨whole, inner⟩ part inside
    cases inside with
    | self => exact whole
    | item member inside => exact inner _ member part inside

theorem forall_part_object {members : List (String × Value)} :
    (∀ part, Part part (.object members) → property part) ↔
      property (.object members) ∧
        ∀ name value, (name, value) ∈ members → ∀ part, Part part value → property part := by
  constructor
  · intro all
    exact ⟨all _ .self, fun name value member part inside => all part (.member member inside)⟩
  · rintro ⟨whole, inner⟩ part inside
    cases inside with
    | self => exact whole
    | member member inside => exact inner _ _ member part inside

theorem forall_part_of_isScalar {value : Value} (scalar : value.IsScalar) :
    (∀ part, Part part value → property part) ↔ property value := by
  constructor
  · exact fun all => all value .self
  · intro whole part inside
    cases inside with
    | self => exact whole
    | item => exact scalar.elim
    | member => exact scalar.elim

end

/-- The names of an object are in ascending order, each once; other values have no names. -/
def NamesAscend : Value → Prop
  | .object members => Keyed.Ascending members
  | _ => True

/-- Every object in the value is a keyed list. -/
def WellFormed (value : Value) : Prop := ∀ part, Part part value → part.NamesAscend

theorem wellFormed_array_iff {items : List Value} :
    WellFormed (.array items) ↔ ∀ item ∈ items, item.WellFormed := by
  unfold WellFormed
  rw [forall_part_array]
  exact and_iff_right trivial

theorem wellFormed_object_iff {members : List (String × Value)} :
    WellFormed (.object members) ↔
      Keyed.Ascending members ∧ ∀ name value, (name, value) ∈ members → value.WellFormed :=
  forall_part_object

theorem WellFormed.of_isScalar {value : Value} (scalar : value.IsScalar) : value.WellFormed := by
  refine (forall_part_of_isScalar scalar).mpr ?_
  cases value with
  | object => exact scalar.elim
  | _ => trivial

theorem WellFormed.item {items : List Value} {item : Value}
    (wellFormed : WellFormed (.array items)) (member : item ∈ items) : item.WellFormed :=
  wellFormed_array_iff.mp wellFormed item member

theorem WellFormed.names {members : List (String × Value)}
    (wellFormed : WellFormed (.object members)) : Keyed.Ascending members :=
  (wellFormed_object_iff.mp wellFormed).1

theorem WellFormed.value {members : List (String × Value)} {name : String} {value : Value}
    (wellFormed : WellFormed (.object members)) (member : (name, value) ∈ members) :
    value.WellFormed :=
  (wellFormed_object_iff.mp wellFormed).2 name value member

theorem WellFormed.insert {members : List (String × Value)} {name : String} {value : Value}
    (wellFormed : WellFormed (.object members)) (valueWellFormed : value.WellFormed) :
    WellFormed (.object (Keyed.insert name value members)) := by
  refine wellFormed_object_iff.mpr ⟨wellFormed.names.insert, fun other found member => ?_⟩
  rcases Keyed.mem_insert member with same | member
  · cases same
    exact valueWellFormed
  · exact wellFormed.value member

mutual

/-- Whether every object in a value is a keyed list. -/
def isWellFormed : Value → Bool
  | .array items => areWellFormed items
  | .object members => decide (Keyed.Ascending members) && haveWellFormedValues members
  | _ => true

def areWellFormed : List Value → Bool
  | [] => true
  | item :: rest => isWellFormed item && areWellFormed rest

def haveWellFormedValues : List (String × Value) → Bool
  | [] => true
  | (_, value) :: rest => isWellFormed value && haveWellFormedValues rest

end

theorem areWellFormed_iff {items : List Value} :
    areWellFormed items = true ↔ ∀ item ∈ items, item.isWellFormed = true := by
  induction items with
  | nil => simp [areWellFormed]
  | cons item rest ih => simp [areWellFormed, ih]

theorem haveWellFormedValues_iff {members : List (String × Value)} :
    haveWellFormedValues members = true ↔
      ∀ name value, (name, value) ∈ members → value.isWellFormed = true := by
  induction members with
  | nil => simp [haveWellFormedValues]
  | cons member rest ih =>
      obtain ⟨name, value⟩ := member
      rw [haveWellFormedValues, Bool.and_eq_true, ih]
      constructor
      · rintro ⟨first, others⟩ other found inside
        rcases List.mem_cons.mp inside with same | inside
        · cases same
          exact first
        · exact others other found inside
      · intro all
        exact ⟨all name value List.mem_cons_self,
          fun other found inside => all other found (List.mem_cons_of_mem _ inside)⟩

theorem isWellFormed_iff (value : Value) : value.isWellFormed = true ↔ value.WellFormed := by
  induction value with
  | array items ih =>
      rw [isWellFormed, areWellFormed_iff, wellFormed_array_iff]
      exact forall₂_congr ih
  | object members ih =>
      rw [isWellFormed, Bool.and_eq_true, decide_eq_true_iff, haveWellFormedValues_iff,
        wellFormed_object_iff]
      exact and_congr_right fun _ => forall₃_congr ih
  | _ => exact iff_of_true rfl (.of_isScalar trivial)

instance : DecidablePred WellFormed := fun value => decidable_of_iff _ value.isWellFormed_iff

end ApiMock.Value
