import ApiMock.Compare.Mismatch
import ApiMock.Proofs.Keyed.Lookup
import ApiMock.Proofs.Value.Part

/-!
# Parts at places

A place leads from a value to one of its parts, step by step. Two documents are compared part against
part, where both have a part at the same place.
-/

set_option autoImplicit false

namespace ApiMock.Value

/-- The item or member that a step leads to. -/
def child? : Step → Value → Option Value
  | .member name, .object members => members.lookup name
  | .item index, .array items => items[index]?
  | _, _ => none

/-- The part at a place. -/
def part? : Location → Value → Option Value
  | [], value => some value
  | step :: rest, value => (child? step value).bind (part? rest)

theorem part?_cons (step : Step) (rest : Location) (value : Value) :
    part? (step :: rest) value = (child? step value).bind (part? rest) := rfl

theorem part?_cons_eq_some_iff {step : Step} {rest : Location} {value part : Value} :
    part? (step :: rest) value = some part ↔
      ∃ child, child? step value = some child ∧ part? rest child = some part :=
  Option.bind_eq_some_iff

theorem part?_singleton (step : Step) (value : Value) : part? [step] value = child? step value :=
  Option.bind_fun_some _

theorem part?_append (place inner : Location) (value : Value) :
    part? (place ++ inner) value = (part? place value).bind (part? inner) := by
  induction place generalizing value with
  | nil => rfl
  | cons step rest ih =>
      rw [List.cons_append, part?_cons, part?_cons, Option.bind_assoc]
      exact congrArg _ (funext ih)

theorem WellFormed.child {value child : Value} {step : Step} (wellFormed : value.WellFormed)
    (found : child? step value = some child) : child.WellFormed := by
  cases step with
  | member name =>
      cases value with
      | object members => exact wellFormed.value (Keyed.mem_of_lookup found)
      | _ => cases found
  | item index =>
      cases value with
      | array items => exact wellFormed.item (List.mem_of_getElem? found)
      | _ => cases found

theorem WellFormed.part {value part : Value} {place : Location} (wellFormed : value.WellFormed)
    (found : part? place value = some part) : part.WellFormed := by
  induction place generalizing value with
  | nil => cases found; exact wellFormed
  | cons step rest ih =>
      obtain ⟨child, here, found⟩ := part?_cons_eq_some_iff.mp found
      exact ih (wellFormed.child here) found

/-- A relation of all parts of two values that are at the same place. -/
def Facing (relation : Value → Value → Prop) (first second : Value) : Prop :=
  ∀ place x y, first.part? place = some x → second.part? place = some y → relation x y

section

variable {relation : Value → Value → Prop} {first second x y : Value}

theorem Facing.here (facing : Facing relation first second) : relation first second :=
  facing [] first second rfl rfl

theorem Facing.deeper (facing : Facing relation first second) {place : Location}
    (left : first.part? place = some x) (right : second.part? place = some y) :
    Facing relation x y := by
  intro inner _ _ innerLeft innerRight
  refine facing (place ++ inner) _ _ ?_ ?_
  · rw [part?_append, left]; exact innerLeft
  · rw [part?_append, right]; exact innerRight

theorem Facing.child (facing : Facing relation first second) (step : Step)
    (left : child? step first = some x) (right : child? step second = some y) :
    Facing relation x y :=
  facing.deeper ((part?_singleton step first).trans left) ((part?_singleton step second).trans right)

theorem facing_iff :
    Facing relation first second ↔ relation first second ∧
      ∀ step x y, child? step first = some x → child? step second = some y →
        Facing relation x y := by
  constructor
  · exact fun facing => ⟨facing.here, fun step _ _ left right => facing.child step left right⟩
  · rintro ⟨here, inner⟩ place x y left right
    cases place with
    | nil => cases left; cases right; exact here
    | cons step rest =>
        obtain ⟨u, leftHere, leftRest⟩ := part?_cons_eq_some_iff.mp left
        obtain ⟨v, rightHere, rightRest⟩ := part?_cons_eq_some_iff.mp right
        exact inner step u v leftHere rightHere rest x y leftRest rightRest

theorem facing_array_iff {firsts seconds : List Value} :
    Facing relation (.array firsts) (.array seconds) ↔
      relation (.array firsts) (.array seconds) ∧
        ∀ pair ∈ firsts.zip seconds, Facing relation pair.1 pair.2 := by
  rw [facing_iff]
  refine and_congr_right fun _ => ⟨fun inner ⟨x, y⟩ member => ?_, fun inner step x y left right => ?_⟩
  · obtain ⟨index, found⟩ := List.mem_iff_getElem?.mp member
    obtain ⟨left, right⟩ := List.getElem?_zip_eq_some.mp found
    exact inner (.item index) x y left right
  · cases step with
    | member => cases left
    | item index =>
        have found : (firsts.zip seconds)[index]? = some (x, y) :=
          List.getElem?_zip_eq_some.mpr ⟨left, right⟩
        exact inner (x, y) (List.mem_iff_getElem?.mpr ⟨index, found⟩)

theorem facing_object_iff {members found : List (String × Value)} :
    Facing relation (.object members) (.object found) ↔
      relation (.object members) (.object found) ∧
        ∀ name x y, members.lookup name = some x → found.lookup name = some y →
          Facing relation x y := by
  rw [facing_iff]
  refine and_congr_right fun _ => ⟨fun inner name => inner (.member name), fun inner step => ?_⟩
  cases step with
  | member name => exact inner name
  | item => exact fun _ _ left => nomatch left

theorem Facing.of_isScalar (scalar : first.IsScalar) (here : relation first second) :
    Facing relation first second := by
  refine facing_iff.mpr ⟨here, fun step x y left => ?_⟩
  cases first <;> cases step <;> first | exact scalar.elim | cases left

end

end ApiMock.Value
