import ApiMock.Definition.Basic

/-!
# Places in trees of definitions

A place leads from a definition to one of those below it, child by child. What is said of a whole tree
is said of the definitions at all of its places.
-/

set_option autoImplicit false

namespace ApiMock

/-- The children that a strategy dispatches to, with their keys. -/
def Strategy.children : Strategy → List (String × Definition)
  | .dispatch _ children => children
  | _ => []

@[simp] theorem Strategy.children_dispatch (dispatcher : Dispatcher)
    (children : List (String × Definition)) :
    (Strategy.dispatch dispatcher children).children = children := rfl

/-- Positions of children, from the outermost to the innermost. -/
abbrev Place := List Nat

namespace Definition

/-- Induction over the children that strategies dispatch to. -/
@[induction_eliminator]
theorem inductionOnChildren {motive : Definition → Prop}
    (node : ∀ definition : Definition,
      (∀ child ∈ definition.strategy.children, motive child.2) → motive definition) :
    ∀ definition, motive definition
  | ⟨_, _, .dispatch _ _, _, _⟩ => node _ fun child _ => inductionOnChildren node child.2
  | ⟨_, _, .unset, _, _⟩ | ⟨_, _, .nop, _, _⟩ | ⟨_, _, .dropRequest, _, _⟩
  | ⟨_, _, .constant _ _, _, _⟩ | ⟨_, _, .template _ _, _, _⟩ => node _ nofun
termination_by definition => sizeOf definition
decreasing_by
  rename_i member
  have smaller := List.sizeOf_lt_of_mem member
  obtain ⟨key, child⟩ := child
  simp only [Prod.mk.sizeOf_spec, Strategy.children_dispatch] at smaller
  simp only [mk.sizeOf_spec, Strategy.dispatch.sizeOf_spec]
  omega

/-- The child at a position. -/
def child? (position : Nat) (definition : Definition) : Option Definition :=
  definition.strategy.children[position]?.map Prod.snd

theorem child?_eq_some_iff {position : Nat} {definition child : Definition} :
    definition.child? position = some child ↔
      ∃ key, definition.strategy.children[position]? = some (key, child) := by
  simp [child?]

theorem child?_of_dispatch {position : Nat} {definition child : Definition} {key : String}
    {dispatcher : Dispatcher} {children : List (String × Definition)}
    (strategy : definition.strategy = .dispatch dispatcher children)
    (found : children[position]? = some (key, child)) : definition.child? position = some child :=
  child?_eq_some_iff.mpr ⟨key, by rw [strategy]; exact found⟩

/-- The definition at a place. -/
def node? : Place → Definition → Option Definition
  | [], definition => some definition
  | position :: rest, definition => (definition.child? position).bind (node? rest)

variable {definition node : Definition} {position : Nat} {place : Place}

@[simp] theorem node?_nil : definition.node? [] = some definition := rfl

theorem node?_cons :
    definition.node? (position :: place) = (definition.child? position).bind (node? place) := rfl

theorem node?_cons_eq_some_iff :
    definition.node? (position :: place) = some node ↔
      ∃ child, definition.child? position = some child ∧ child.node? place = some node :=
  Option.bind_eq_some_iff

theorem node?_append (inner : Place) :
    definition.node? (place ++ inner) = (definition.node? place).bind (node? inner) := by
  induction place generalizing definition with
  | nil => rfl
  | cons position rest ih =>
      rw [List.cons_append, node?_cons, node?_cons, Option.bind_assoc]
      exact congrArg _ (funext fun _ => ih)

/-- A property of all definitions of a tree is one of the root and of all below each child. -/
theorem forall_node_iff {property : Definition → Prop} :
    (∀ place node, definition.node? place = some node → property node) ↔
      property definition ∧ ∀ child ∈ definition.strategy.children,
        ∀ place node, child.2.node? place = some node → property node := by
  constructor
  · intro all
    refine ⟨all [] _ rfl, fun ⟨key, child⟩ member place node found => ?_⟩
    obtain ⟨position, here⟩ := List.mem_iff_getElem?.mp member
    have below := child?_eq_some_iff.mpr ⟨key, here⟩
    exact all (position :: place) node (node?_cons_eq_some_iff.mpr ⟨child, below, found⟩)
  · rintro ⟨root, below⟩ place node found
    cases place with
    | nil => cases found; exact root
    | cons position place =>
        obtain ⟨child, here, found⟩ := node?_cons_eq_some_iff.mp found
        obtain ⟨key, here⟩ := child?_eq_some_iff.mp here
        exact below _ (List.mem_of_getElem? here) place node found

end Definition

end ApiMock
