import ApiMock.Proofs.Keyed.Insert
import ApiMock.Template.Render

/-!
# Data that differ in the decoded body

Two renderings of a template may see requests that differ in the member `json`. A view says what two
values have in common that both come from the same place of the data: they are the same, or one of
the objects in which the decoded body lies. What does not look at the members of such an object
cannot tell the two from each other.
-/

set_option autoImplicit false

namespace ApiMock.Template

/-- What is known of two values. -/
inductive View where
  | same
  /-- They are requests, or the same. -/
  | request
  /-- They are data with a request, or the same. -/
  | data
  | any
deriving DecidableEq

namespace View

/-- The view of the members with a name. There is none for what may be the decoded body. -/
def member : View → String → Option View
  | same, _ => some same
  | request, name => if name = "json" then none else some same
  | data, name => some (if name = "request" then request else same)
  | any, name =>
    if name = "json" then none else some (if name = "request" then request else same)

/-- The view of all items and members, if there is one for all of them. -/
def items : View → Option View
  | same => some same
  | data => some request
  | request | any => none

/-- The view at the end of a path. -/
def reach : View → List String → Option View
  | view, [] => some view
  | view, name :: rest => (view.member name).bind fun inner => inner.reach rest

/-- The view of what has one of two views. -/
def join (left right : View) : View := if left = right then left else any

/-- The view of an item is as good as that of all items. -/
theorem member_of_items {view inner : View} (all : view.items = some inner) (name : String) :
    ∃ own, view.member name = some own ∧ (own = same ∨ own = inner) := by
  cases view with
  | same => exact ⟨same, rfl, .inl rfl⟩
  | data =>
      obtain rfl : request = inner := Option.some.inj all
      by_cases here : name = "request"
      · exact ⟨request, by rw [member, if_pos here], .inr rfl⟩
      · exact ⟨same, by rw [member, if_neg here], .inl rfl⟩
  | request | any => cases all

/-- A view that knows nothing of its values sees less of them than any other. -/
theorem member_of_any {outer : View} {name : String} (seen : any.member name = some outer)
    (view : View) : ∃ own, view.member name = some own ∧ (own = same ∨ own = outer) := by
  rw [member] at seen
  split at seen
  · cases seen
  · rename_i notBody
    obtain rfl := Option.some.inj seen
    cases view with
    | same => exact ⟨same, rfl, .inl rfl⟩
    | request => exact ⟨same, by rw [member, if_neg notBody], .inl rfl⟩
    | data => exact ⟨_, rfl, .inr rfl⟩
    | any => exact ⟨_, by rw [member, if_neg notBody], .inr rfl⟩

end View

mutual

/-- Two values as a view has them. -/
inductive Alike : View → Value → Value → Prop where
  | refl (view : View) (value : Value) : Alike view value value
  | object {view : View} {members others : List (String × Value)} :
      view ≠ .same → MembersAlike view members others →
      Alike view (.object members) (.object others)

/-- The members of two objects as a view has them. -/
inductive MembersAlike : View → List (String × Value) → List (String × Value) → Prop where
  | nil {view : View} : MembersAlike view [] []
  | cons {view : View} {name : String} {value other : Value}
      {members others : List (String × Value)} :
      (∀ inner, view.member name = some inner → Alike inner value other) →
      MembersAlike view members others →
      MembersAlike view ((name, value) :: members) ((name, other) :: others)

end

variable {view inner : View} {value other : Value} {members others : List (String × Value)}

theorem Alike.eq (alike : Alike .same value other) : value = other := by
  cases alike with
  | refl => rfl
  | object differ => exact absurd rfl differ

theorem Alike.mono (alike : Alike inner value other) (less : inner = .same ∨ inner = view) :
    Alike view value other := by
  obtain rfl | rfl := less
  · exact alike.eq ▸ .refl view value
  · exact alike

namespace MembersAlike

theorem refl (view : View) : ∀ members, MembersAlike view members members
  | [] => .nil
  | _ :: rest => .cons (fun inner _ => .refl inner _) (refl view rest)

theorem length_eq (alike : MembersAlike view members others) : members.length = others.length := by
  induction members generalizing others with
  | nil => cases alike; rfl
  | cons member rest ih =>
      cases alike with
      | cons _ behind => exact congrArg (· + 1) (ih behind)

theorem isEmpty_eq (alike : MembersAlike view members others) :
    members.isEmpty = others.isEmpty := by
  cases alike <;> rfl

theorem lookup {name : String} (alike : MembersAlike view members others)
    (seen : view.member name = some inner) :
    Option.Rel (Alike inner) (members.lookup name) (others.lookup name) := by
  induction members generalizing others with
  | nil => cases alike; exact .none
  | cons member rest ih =>
      cases alike with
      | cons here behind =>
          rw [List.lookup_cons, List.lookup_cons]
          split
          · rename_i found
            exact .some (here inner (beq_iff_eq.mp found ▸ seen))
          · exact ih behind

theorem insert {name : String} (alike : MembersAlike view members others)
    (new : ∀ inner, view.member name = some inner → Alike inner value other) :
    MembersAlike view (Keyed.insert name value members) (Keyed.insert name other others) := by
  induction members generalizing others with
  | nil => cases alike; exact .cons new .nil
  | cons member rest ih =>
      cases alike with
      | cons here behind =>
          rw [Keyed.insert, Keyed.insert]
          split
          · exact .cons new behind
          · split
            · exact .cons new (.cons here behind)
            · exact .cons here (ih behind)

theorem foldl_insert {start origin : List (String × Value)}
    (alike : MembersAlike view members others) (before : MembersAlike view start origin) :
    MembersAlike view
      (members.foldl (fun map entry => Keyed.insert entry.1 entry.2 map) start)
      (others.foldl (fun map entry => Keyed.insert entry.1 entry.2 map) origin) := by
  induction members generalizing others start origin with
  | nil => cases alike; exact before
  | cons member rest ih =>
      cases alike with
      | cons here behind =>
          rw [List.foldl_cons, List.foldl_cons]
          exact ih behind (before.insert here)

theorem ofEntries (alike : MembersAlike view members others) :
    MembersAlike view (Keyed.ofEntries members) (Keyed.ofEntries others) :=
  alike.foldl_insert .nil

theorem eq (alike : MembersAlike .same members others) : members = others := by
  induction members generalizing others with
  | nil => cases alike; rfl
  | cons member rest ih =>
      cases alike with
      | cons here behind => rw [(here .same rfl).eq, ih behind]

theorem object (alike : MembersAlike view members others) :
    Alike view (.object members) (.object others) := by
  by_cases same : view = .same
  · subst same
    exact alike.eq ▸ .refl _ _
  · exact .object same alike

theorem any (alike : MembersAlike view members others) : MembersAlike .any members others := by
  induction members generalizing others with
  | nil => cases alike; exact .nil
  | cons member rest ih =>
      cases alike with
      | cons here behind =>
          refine .cons (fun outer seen => ?_) (ih behind)
          obtain ⟨own, seen, less⟩ := View.member_of_any seen view
          exact (here own seen).mono less

end MembersAlike

namespace Alike

theorem any (alike : Alike view value other) : Alike .any value other := by
  cases alike with
  | refl => exact .refl .any value
  | object _ members => exact .object nofun members.any

theorem join_left (alike : Alike view value other) : Alike (view.join inner) value other := by
  rw [View.join]
  split
  · exact alike
  · exact alike.any

theorem join_right (alike : Alike inner value other) : Alike (view.join inner) value other := by
  rw [View.join]
  split
  · rename_i same
    exact same ▸ alike
  · exact alike.any

theorem shown_eq (alike : Alike view value other) : shown value = shown other := by
  cases alike with
  | refl => rfl
  | object => rw [shown, shown]

theorem isTruthy_eq (alike : Alike view value other) (includeZero : Bool) :
    isTruthy includeZero value = isTruthy includeZero other := by
  cases alike with
  | refl => rfl
  | object _ members => cases members <;> rfl

theorem lengthOf_eq (alike : Alike view value other) : lengthOf value = lengthOf other := by
  cases alike with
  | refl => rfl
  | object _ members => exact members.length_eq

theorem string?_eq (alike : Alike view value other) : value.string? = other.string? := by
  cases alike <;> rfl

theorem bool?_eq (alike : Alike view value other) : value.bool? = other.bool? := by
  cases alike <;> rfl

theorem nat?_eq (alike : Alike view value other) : value.nat? = other.nat? := by
  cases alike <;> rfl

theorem lookUp_eq (alike : Alike view value other) (collection : Value) :
    lookUp collection value = lookUp collection other := by
  rw [lookUp.eq_def, lookUp.eq_def, alike.nat?_eq, alike.string?_eq]

/-- A look-up of a name finds what a path with that name leads to. -/
theorem lookUp_alike {index : Value} (alike : Alike view value other)
    (seen : index.string?.elim (some .same) view.member = some inner) :
    Option.Rel (Alike inner) (lookUp value index) (lookUp other index) := by
  cases alike with
  | refl =>
      cases lookUp value index with
      | none => exact .none
      | some found => exact .some (.refl inner found)
  | object _ members =>
      rw [lookUp, lookUp]
      cases name : index.string? with
      | none => exact .none
      | some name =>
          rw [name] at seen
          exact members.lookup seen

theorem order?_eq {left right : View} {a b c d : Value} (first : Alike left a b)
    (second : Alike right c d) : order? a c = order? b d := by
  cases first with
  | refl =>
      cases second with
      | refl => rfl
      | object => cases a <;> rfl
  | object => cases second <;> rfl

theorem membersOf (alike : Alike view value other) :
    MembersAlike view (membersOf value) (membersOf other) := by
  cases alike with
  | refl => exact .refl view _
  | object _ members => exact members

theorem member? {name : String} (alike : Alike view value other)
    (seen : view.member name = some inner) :
    Option.Rel (Alike inner) (value.member? name) (other.member? name) := by
  cases alike with
  | refl =>
      cases value.member? name with
      | none => exact .none
      | some found => exact .some (.refl inner found)
  | object _ members => exact members.lookup seen

end Alike

/-! ## Results -/

/-- Two results: the same error, or values in a relation. -/
inductive Outcomes {ε α β : Type} (R : α → β → Prop) : Except ε α → Except ε β → Prop where
  | error (fault : ε) : Outcomes R (.error fault) (.error fault)
  | ok {first : α} {second : β} : R first second → Outcomes R (.ok first) (.ok second)

namespace Outcomes

variable {ε α β γ δ : Type} {R : α → β → Prop} {S : γ → δ → Prop} {x : Except ε α} {y : Except ε β}

theorem bind_of_eq {f : α → Except ε γ} {g : β → Except ε δ} (results : Outcomes R x y)
    (next : ∀ first second, x = .ok first → y = .ok second → R first second →
      Outcomes S (f first) (g second)) :
    Outcomes S (x >>= f) (y >>= g) := by
  cases results with
  | error fault => exact .error fault
  | ok related => exact next _ _ rfl rfl related

theorem bind {f : α → Except ε γ} {g : β → Except ε δ} (results : Outcomes R x y)
    (next : ∀ first second, R first second → Outcomes S (f first) (g second)) :
    Outcomes S (x >>= f) (y >>= g) :=
  results.bind_of_eq fun first second _ _ => next first second

theorem imp {R' : α → β → Prop} (results : Outcomes R x y)
    (weaken : ∀ first second, R first second → R' first second) : Outcomes R' x y := by
  cases results with
  | error fault => exact .error fault
  | ok related => exact .ok (weaken _ _ related)

theorem eq {x y : Except ε α} (results : Outcomes Eq x y) : x = y := by
  cases results with
  | error => rfl
  | ok same => rw [same]

theorem refl {R : α → α → Prop} (related : ∀ value, R value value) (x : Except ε α) :
    Outcomes R x x := by
  cases x with
  | error fault => exact .error fault
  | ok value => exact .ok (related value)

end Outcomes

theorem rel_refl (view : View) (found : Option Value) : Option.Rel (Alike view) found found := by
  cases found with
  | none => exact .none
  | some value => exact .some (.refl view value)

theorem rel_imp {outer : View} {found another : Option Value}
    (weaken : ∀ {value other}, Alike inner value other → Alike outer value other)
    (alike : Option.Rel (Alike inner) found another) : Option.Rel (Alike outer) found another := by
  cases alike with
  | none => exact .none
  | some alike => exact .some (weaken alike)

theorem rel_same {found another : Option Value}
    (alike : Option.Rel (Alike .same) found another) : found = another := by
  cases alike with
  | none => rfl
  | some alike => rw [alike.eq]

theorem rel_getD {found another : Option Value} (alike : Option.Rel (Alike view) found another) :
    Alike view (found.getD .null) (another.getD .null) := by
  cases alike with
  | none => exact .refl view .null
  | some alike => exact alike

/-- A path that does not lead to the decoded body leads to the same place. -/
theorem navigate_alike {found another : Option Value} {names : List String}
    (alike : Option.Rel (Alike view) found another) (seen : view.reach names = some inner) :
    Outcomes (Option.Rel (Alike inner)) (navigate found names) (navigate another names) := by
  induction names generalizing view found another with
  | nil =>
      obtain rfl := Option.some.inj seen
      rw [navigate, navigate]
      exact .ok alike
  | cons name rest ih =>
      obtain ⟨own, here, behind⟩ := Option.bind_eq_some_iff.mp seen
      cases alike with
      | none => exact .ok .none
      | some alike =>
          cases alike with
          | refl => exact Outcomes.refl (rel_refl inner) _
          | object differ members =>
              rw [navigate, navigate]
              · exact ih (members.lookup here) behind
              · nofun
              · nofun

end ApiMock.Template
