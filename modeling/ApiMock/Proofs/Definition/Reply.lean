import ApiMock.Definition.Execute
import ApiMock.Proofs.Definition.Place
import Mathlib.Logic.Basic

/-!
# One definition at a time

How a dispatcher chooses a child, and what a definition does with a request: it counts the call, and
its strategy replies itself, finds no child, or leaves the reply to exactly one child.
-/

set_option autoImplicit false

namespace ApiMock

/-- The position of the first item that fits. -/
def IsFirst {α : Type} (fits : α → Prop) (items : List α) (position : Nat) : Prop :=
  (∃ item, items[position]? = some item ∧ fits item) ∧
    ∀ earlier < position, ∀ item, items[earlier]? = some item → ¬ fits item

theorem findIdx?_eq_some_iff_isFirst {α : Type} {test : α → Bool} {items : List α}
    {position : Nat} :
    items.findIdx? test = some position ↔
      IsFirst (fun item => test item = true) items position := by
  rw [List.findIdx?_eq_some_iff_getElem]
  constructor
  · rintro ⟨inside, fits, earlier⟩
    refine ⟨⟨_, List.getElem?_eq_getElem inside, fits⟩, fun index less item found => ?_⟩
    obtain ⟨_, rfl⟩ := List.getElem?_eq_some_iff.mp found
    exact earlier index less
  · rintro ⟨⟨item, found, fits⟩, earlier⟩
    obtain ⟨inside, rfl⟩ := List.getElem?_eq_some_iff.mp found
    exact ⟨inside, fits, fun index less => earlier index less _ (List.getElem?_eq_getElem _)⟩

/-- How a dispatcher chooses a child: by the path or the method of a request, in turn, or by what
the child expects of the request. The first child that fits is chosen. -/
def Dispatcher.Chooses (request : Request) (children : List (String × Definition))
    (position : Nat) : Dispatcher → Prop
  | .uri => IsFirst (fun child => child.1 = request.decodedPath) children position
  | .method =>
      IsFirst (fun child => Case.asciiEqual child.1 request.method = true) children position
  | .sequence next => position = next ∧ next < children.length
  | .request =>
      IsFirst (fun child => ∀ constraint ∈ child.2.constraints, constraint.verify request = [])
        children position

variable {request : Request} {dispatcher : Dispatcher} {children : List (String × Definition)}
  {position : Nat} {key : String} {child : Definition}

theorem Definition.verify_eq_nil_iff {definition : Definition} :
    definition.verify request = [] ↔
      ∀ constraint ∈ definition.constraints, constraint.verify request = [] := by
  simp [verify, List.flatMap_eq_nil_iff]

namespace Dispatcher

theorem choose?_eq_some_iff :
    dispatcher.choose? request children = some position ↔
      dispatcher.Chooses request children position := by
  cases dispatcher with
  | uri => simp only [choose?, Chooses, findIdx?_eq_some_iff_isFirst, decide_eq_true_eq]
  | method => exact findIdx?_eq_some_iff_isFirst
  | sequence next =>
      rw [choose?, Chooses, Option.ite_none_right_eq_some, Option.some.injEq, and_comm,
        eq_comm (a := position)]
  | request =>
      simp only [choose?, Chooses, findIdx?_eq_some_iff_isFirst, List.isEmpty_iff,
        Definition.verify_eq_nil_iff]

theorem choose?_eq_none_iff :
    dispatcher.choose? request children = none ↔
      ∀ position, ¬ dispatcher.Chooses request children position := by
  simp only [← choose?_eq_some_iff, Option.eq_none_iff_forall_ne_some, ne_eq]

theorem exists_child_of_choose?
    (chosen : dispatcher.choose? request children = some position) :
    ∃ key child, children[position]? = some (key, child) := by
  have inside : position < children.length := by
    cases dispatcher with
    | sequence next =>
        obtain ⟨rfl, inside⟩ := choose?_eq_some_iff.mp chosen
        exact inside
    | _ => exact (List.findIdx?_eq_some_iff_getElem.mp chosen).1
  exact ⟨_, _, List.getElem?_eq_getElem inside⟩

/-- A child that was chosen by its constraints has none that fails. -/
theorem verify_of_chosen (chosen : Dispatcher.request.choose? request children = some position)
    (found : children[position]? = some (key, child)) : child.verify request = [] := by
  obtain ⟨⟨_, same, fits⟩, _⟩ := choose?_eq_some_iff.mp chosen
  cases found.symm.trans same
  exact Definition.verify_eq_nil_iff.mpr fits

end Dispatcher

/-- A view of items does not show that one is replaced by another that looks the same. -/
theorem map_set_of_eq {α β : Type} {f : α → β} {items : List α} {index : Nat} {old new : α}
    (found : items[index]? = some old) (same : f new = f old) :
    (items.set index new).map f = items.map f := by
  induction items generalizing index with
  | nil => cases found
  | cons first rest ih =>
      cases index with
      | zero =>
          cases found
          rw [List.set_cons_zero, List.map_cons, List.map_cons, same]
      | succ index => rw [List.set_cons_succ, List.map_cons, List.map_cons, ih found]

/-! ## Replies of strategies -/

theorem replyAt_eq (found : children[position]? = some (key, child)) :
    replyAt request dispatcher children position =
      { after := children.set position (key, (child.reply request).after)
        response := (child.reply request).response
        failures := dispatcher.childFailures request child ++ (child.reply request).failures } := by
  induction children generalizing position with
  | nil => cases found
  | cons first rest ih =>
      cases position with
      | zero =>
          cases found
          rw [replyAt]
          rfl
      | succ position =>
          rw [replyAt, ih found]
          rfl

namespace Strategy

theorem reply_of_unchosen (unchosen : dispatcher.choose? request children = none) :
    (dispatch dispatcher children).reply request =
      { after := dispatch dispatcher children
        response := { status := dispatcher.unhandledStatus }
        failures := dispatcher.unhandledFailures request children } := by
  rw [Strategy.reply, unchosen]

theorem reply_of_chosen (chosen : dispatcher.choose? request children = some position)
    (found : children[position]? = some (key, child)) :
    (dispatch dispatcher children).reply request =
      { after := dispatch dispatcher.advance
          (children.set position (key, (child.reply request).after))
        response := (child.reply request).response
        failures := dispatcher.childFailures request child ++ (child.reply request).failures } := by
  simp only [Strategy.reply, chosen, replyAt_eq found]
  rfl

end Strategy

namespace Definition

variable {definition : Definition}

/-- The position of the child to which a definition leaves the reply. -/
def choice? (request : Request) (definition : Definition) : Option Nat :=
  match definition.strategy with
  | .dispatch dispatcher children => dispatcher.choose? request children
  | _ => none

theorem choice?_of_dispatch (strategy : definition.strategy = .dispatch dispatcher children) :
    definition.choice? request = dispatcher.choose? request children := by
  rw [choice?, strategy]

/-- A definition that chooses a child has a dispatcher to choose it. -/
theorem dispatch_of_choice? (chosen : definition.choice? request = some position) :
    ∃ dispatcher children key child, definition.strategy = .dispatch dispatcher children ∧
      dispatcher.choose? request children = some position ∧
      children[position]? = some (key, child) := by
  unfold choice? at chosen
  split at chosen
  case h_1 dispatcher children strategy =>
    obtain ⟨key, child, found⟩ := Dispatcher.exists_child_of_choose? chosen
    exact ⟨dispatcher, children, key, child, strategy, chosen, found⟩
  case h_2 => cases chosen

/-- Induction along the children that are chosen for a request. -/
theorem inductionOnChoice (request : Request) {motive : Definition → Prop}
    (unchosen : ∀ definition, definition.choice? request = none → motive definition)
    (chosen : ∀ (definition : Definition) dispatcher children position key child,
      definition.strategy = .dispatch dispatcher children →
      dispatcher.choose? request children = some position →
      children[position]? = some (key, child) → motive child → motive definition)
    (definition : Definition) : motive definition := by
  induction definition with
  | node definition ih =>
      cases choice : definition.choice? request with
      | none => exact unchosen definition choice
      | some position =>
          obtain ⟨dispatcher, children, key, child, strategy, choice, found⟩ :=
            dispatch_of_choice? choice
          refine chosen definition _ _ _ _ _ strategy choice found (ih (key, child) ?_)
          rw [strategy]
          exact List.mem_of_getElem? found

theorem reply_eq (request : Request) (definition : Definition) : definition.reply request =
    (definition.strategy.reply request).map fun strategy =>
      { definition with strategy, calls := definition.calls + 1 } := by
  cases definition
  rw [reply]

/-- Whether or not constraints were checked, the tree is the same afterwards. -/
theorem execute_after : (definition.execute request).after = (definition.reply request).after := rfl

theorem executeUnverified_after :
    (definition.executeUnverified request).after = (definition.reply request).after := rfl

/-- Without a child that is chosen, only the call is counted. -/
theorem reply_after_of_unchosen (unchosen : definition.choice? request = none) :
    (definition.reply request).after = { definition with calls := definition.calls + 1 } := by
  obtain ⟨path, constraints, strategy, expectedCalls, calls⟩ := definition
  rw [reply_eq]
  cases strategy with
  | dispatch dispatcher children =>
      simp only [Strategy.reply_of_unchosen unchosen]
      rfl
  | _ =>
      simp only [Strategy.reply]
      rfl

/-- A definition that chooses a child counts the call, and the child replies. -/
theorem reply_of_chosen (strategy : definition.strategy = .dispatch dispatcher children)
    (chosen : dispatcher.choose? request children = some position)
    (found : children[position]? = some (key, child)) :
    definition.reply request =
      { after :=
          { definition with
            strategy := .dispatch dispatcher.advance
              (children.set position (key, (child.reply request).after))
            calls := definition.calls + 1 }
        response := (child.reply request).response
        failures := dispatcher.childFailures request child ++ (child.reply request).failures } := by
  rw [reply_eq, strategy, Strategy.reply_of_chosen chosen found]
  rfl

@[simp] theorem reply_after_calls :
    (definition.reply request).after.calls = definition.calls + 1 := by
  rw [reply_eq]
  rfl

end Definition

end ApiMock
