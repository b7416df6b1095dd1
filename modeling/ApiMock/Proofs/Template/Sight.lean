import ApiMock.Proofs.Template.View

/-!
# Templates that overlook the decoded body

A part of a template is checked with what is known of the blocks around it. It overlooks the decoded
body if no path leads to the decoded body, no helper looks into a value that may hold a request, and
nothing is read of the members of a request where a block goes through them. A partial is checked
where it is defined, without any knowledge of the blocks from which it is included.
-/

set_option autoImplicit false

namespace ApiMock.Template

/-- What is known of a block. What has no view may be the decoded body. -/
structure FrameView where
  value : Option View
  names : List (String × Option View) := []

/-- The decoded body is not known to the block. -/
def FrameView.IsClear (frame : FrameView) : Prop :=
  frame.value.isSome = true ∧ ∀ named ∈ frame.names, named.2.isSome = true

/-- What is known of the blocks around a part of a template, innermost first. -/
structure Sight where
  frames : List FrameView
  /-- Whether there are blocks around these of which nothing is known. -/
  isOpen : Bool
  /-- Whether the part may include the whole template. -/
  isRecursive : Bool

namespace Sight

def enter (sight : Sight) (frame : FrameView) : Sight :=
  { sight with frames := frame :: sight.frames }

/-- The sight inside of a block that has a value of its own or not. -/
def inside (sight : Sight) (entered : Option FrameView) : Sight :=
  entered.elim sight sight.enter

/-- The sight of a partial. -/
def unknown (sight : Sight) : Sight := { sight with frames := [], isOpen := true }

/-- The view of the value of a block so many blocks further out. If there are not so many, it is that
of the innermost one, or of a block of which nothing is known. -/
def here (sight : Sight) (outwards : Nat) : Option View :=
  match sight.frames[outwards]? with
  | some frame => frame.value
  | none => if sight.frames.head?.any (·.value.isNone) then none else some .any

def named? (sight : Sight) (name : String) : Option (Option View) :=
  sight.frames.findSome? fun frame => frame.names.lookup name

/-- The decoded body is not known to any block around. -/
def IsClear (sight : Sight) : Prop := ∀ frame ∈ sight.frames, frame.IsClear

end Sight

/-! ## Views of arguments -/

/-- The view of a value at a path. In front of blocks of which nothing is known, the first name may
be one that such a block gives to a value. -/
def Path.view (sight : Sight) (path : Path) : Option View :=
  match path.origin with
  | .root => View.data.reach path.names
  | .variable _ _ => some .same
  | .block outwards =>
    match path.names with
    | [] => sight.here outwards
    | name :: rest =>
      match sight.named? name with
      | some given => given.bind (·.reach rest)
      | none => do
        let inner ← (sight.here outwards).bind (·.reach (name :: rest))
        if sight.isOpen then
          let given ← View.any.reach rest
          return inner.join given
        else return inner

/-- How many of its arguments a helper looks into. Of others it sees at most which kind of value
they are and how many members they have. -/
def examined : String → Nat
  | "json" | "default" | "lookup" => 1
  | "eq" | "ne" => 2
  | _ => 0

/-- Whether a helper does not look into what may hold a request. -/
def looksAway (name : String) (views : List View) : Bool :=
  (views.take (examined name)).all (· = .same)

/-- The view of the result of a helper. What a literal name looks up is a member with that name. -/
def resultView (name : String) (params : List Param) (views : List View) : Option View :=
  if looksAway name views then some .same
  else
    match name, params with
    | "lookup", _ :: .literal index :: _ =>
      index.string?.elim (some .same) (views.headD .same).member
    | _, _ => none

mutual

def Param.view (sight : Sight) : Param → Option View
  | .literal _ => some .same
  | .path path => path.view sight
  | .call call => call.view sight

def paramViews (sight : Sight) : List Param → Option (List View)
  | [] => some []
  | param :: rest => do
    let view ← param.view sight
    let views ← paramViews sight rest
    return view :: views

def namedViews (sight : Sight) : List (String × Param) → Option (List (String × View))
  | [] => some []
  | (name, param) :: rest => do
    let view ← param.view sight
    let views ← namedViews sight rest
    return (name, view) :: views

def Call.view (sight : Sight) : Call → Option View
  | ⟨name, params, named⟩ => do
    let views ← paramViews sight params
    let _ ← namedViews sight named
    resultView name params views

end

/-! ## Parts that overlook the decoded body -/

def itemViews (binders : List String) (value : Option View) : List (String × Option View) :=
  match binders with
  | [] => []
  | [item] => [(item, value)]
  | item :: position :: _ => [(position, some .same), (item, value)]

/-- The view of the block that a tag opens, if it opens one with a value of its own. -/
def enteredView (name : String) (params : List Param) (views : List View) (binders : List String) :
    Option (Option FrameView) :=
  let value := views.headD .same
  match name with
  | "with" =>
    some (some ⟨value, if binders.length = 1 then itemViews binders value else []⟩)
  | "each" => some (some ⟨value.items, itemViews binders value.items⟩)
  | _ => (resultView name params views).map fun _ => none

/-- The view of the block in which a partial is rendered. -/
def partialView (sight : Sight) (views : List View) (others : List (String × View)) : FrameView :=
  ⟨views.head?.or (sight.here 0), others.map (Prod.map id some)⟩

/-- The name that an argument stands for, if it does not depend on the data. -/
def Param.fixedName : Param → Option String
  | .literal value => some (shown value)
  | .path target => some target.text
  | .call _ => none

mutual

/-- A part of a template that overlooks the decoded body. -/
inductive Overlooks : Sight → Element → Prop where
  | text {sight : Sight} {content : String} : Overlooks sight (.text content)
  | output {sight : Sight} {source : Param} {view : View} :
      source.view sight = some view → Overlooks sight (.output source)
  | call {sight : Sight} {call : Call} {view : View} :
      call.view sight = some view → Overlooks sight (.call call)
  | block {sight : Sight} {name : String} {params : List Param} {named : List (String × Param)}
      {binders : List String} {body : List Element} {otherwise : Option (List Element)}
      {views : List View} {others : List (String × View)} {entered : Option FrameView} :
      paramViews sight params = some views → namedViews sight named = some others →
      enteredView name params views binders = some entered →
      OverlooksAll (sight.inside entered) body →
      (∀ elements, otherwise = some elements → OverlooksAll sight elements) →
      Overlooks sight (.block ⟨name, params, named⟩ binders body otherwise)
  | inclusion {sight : Sight} {source : Param} {params : List Param}
      {named : List (String × Param)} {indent : String} {body : Option (List Element)}
      {view : View} {views : List View} {others : List (String × View)} :
      source.view sight = some view →
      (sight.isRecursive = true ∨ ∃ name, source.fixedName = some name ∧ name ≠ ownName) →
      sight.IsClear →
      paramViews sight params = some views → namedViews sight named = some others →
      (∀ other ∈ others, other.2 = .same) →
      (∀ elements, body = some elements →
        OverlooksAll (sight.enter (partialView sight views others)) elements) →
      Overlooks sight (.inclusion source params named indent body)
  | directive {sight : Sight} {call : Call} {body : Option (List Element)}
      {views : List View} {others : List (String × View)} :
      paramViews sight call.params = some views → namedViews sight call.named = some others →
      (∀ elements, body = some elements → OverlooksAll sight.unknown elements) →
      Overlooks sight (.directive call body)

inductive OverlooksAll : Sight → List Element → Prop where
  | nil {sight : Sight} : OverlooksAll sight []
  | cons {sight : Sight} {element : Element} {rest : List Element} :
      Overlooks sight element → OverlooksAll sight rest → OverlooksAll sight (element :: rest)

end

end ApiMock.Template
