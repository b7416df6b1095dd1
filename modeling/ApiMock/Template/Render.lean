import ApiMock.Template.Helper
import ApiMock.Template.Line

/-!
# Rendering templates

Rendering walks over the parts of a template with the blocks around them, innermost first. A block
has a value, names for values that its tag introduces, and local values. Partials that a template
defines are known up to the end of the block around; since partials may include each other, and a
template itself, their nesting is bounded.
-/

set_option autoImplicit false

namespace ApiMock.Template

structure Frame where
  value : Value
  names : List (String × Value) := []
  locals : List (String × Value) := []

structure Scope where
  data : Value
  frame : Frame
  outer : List Frame
  whole : List Element
  /-- The rendered bodies of the tags that include the partials being rendered, innermost first. -/
  bodies : List String
  indent : String

abbrev Partials := List (String × List Element)

namespace Scope

def ofData (data : Value) (whole : List Element) : Scope :=
  ⟨data, ⟨data, [], []⟩, [], whole, [], ""⟩

def frames (scope : Scope) : List Frame := scope.frame :: scope.outer

def enter (scope : Scope) (frame : Frame) : Scope := { scope with frame, outer := scope.frames }

def inside (scope : Scope) (frame : Option Frame) : Scope := frame.elim scope scope.enter

def named? (scope : Scope) (name : String) : Option Value :=
  scope.frames.findSome? fun frame => frame.names.lookup name

/-- The local value of a block so many blocks further out, or else of a block around it. -/
def local? (scope : Scope) (outwards : Nat) (name : String) : Option Value :=
  (scope.frames.drop outwards).findSome? fun frame => frame.locals.lookup name

end Scope

def index? (name : String) : Option Nat :=
  let digits := match name.toList with
    | '+' :: rest => rest
    | characters => characters
  if digits.isEmpty || !digits.all Char.isDigit then none
  else
    let value := digits.foldl (fun value c => value * 10 + (c.toNat - 0x30)) 0
    if value < UInt64.size then some value else none

def navigate : Option Value → List String → Except RenderError (Option Value)
  | value, [] => .ok value
  | none, _ => .ok none
  | some (.array items), name :: rest =>
    match index? name with
    | some position => navigate items[position]? rest
    | none => .error (.notAnIndex name)
  | some value, name :: rest => navigate (value.member? name) rest

def Path.find (scope : Scope) (path : Path) : Except RenderError (Option Value) :=
  match path.origin with
  | .root => navigate (some scope.data) path.names
  | .variable outwards name => .ok (scope.local? outwards name)
  | .block outwards =>
    match path.names.head?.bind scope.named? with
    | some value => navigate (some value) path.names.tail
    | none =>
      let frame := scope.frames[outwards]?.getD scope.frame
      navigate (some frame.value) path.names

mutual

def Param.find (scope : Scope) : Param → Except RenderError (Option Value)
  | .literal value => .ok (some value)
  | .path path => path.find scope
  | .call call => call.find scope

def paramValues (scope : Scope) : List Param → Except RenderError (List Value)
  | [] => .ok []
  | param :: rest => do
    let value ← param.find scope
    let values ← paramValues scope rest
    return value.getD .null :: values

def namedValues (scope : Scope) :
    List (String × Param) → Except RenderError (List (String × Value))
  | [] => .ok []
  | (name, param) :: rest => do
    let value ← param.find scope
    let values ← namedValues scope rest
    return (name, value.getD .null) :: values

def Call.find (scope : Scope) : Call → Except RenderError (Option Value)
  | ⟨name, params, named⟩ => do
    let args ← paramValues scope params
    let namedArgs ← namedValues scope named
    callHelper scope.data name args namedArgs

end

def shownOrNothing (value : Option Value) : String := shown (value.getD .null)

def Param.written (scope : Scope) : Param → Except RenderError String
  | .path target => .ok target.text
  | source => shownOrNothing <$> source.find scope

/-- The text of an output, and whether no indent belongs to it. -/
def Param.output (scope : Scope) (source : Param) : Except RenderError (String × Bool) := do
  let name ← source.written scope
  -- What names a helper is a call of it without arguments.
  if helperNames.contains name then
    return (shownOrNothing (← callHelper scope.data name [] []), unindentedNames.contains name)
  else
    return (shownOrNothing (← source.find scope), false)

def itemNames (binders : List String) (value key : Value) : List (String × Value) :=
  match binders with
  | [] => []
  | [item] => [(item, value)]
  | item :: position :: _ => [(position, key), (item, value)]

def itemLocals (index count : Nat) : List (String × Value) :=
  [("first", .bool (index == 0)), ("last", .bool (index + 1 == count)),
   ("index", .number (Number.ofNat index))]

def arrayFrames (binders : List String) (items : List Value) : List Frame :=
  items.zipIdx.map fun (value, index) =>
    ⟨value, itemNames binders value (.number (Number.ofNat index)),
      itemLocals index items.length⟩

def objectFrames (binders : List String) (members : List (String × Value)) : List Frame :=
  members.zipIdx.map fun ((name, value), index) =>
    ⟨value, itemNames binders value (.string name),
      ("key", .string name) :: itemLocals index members.length⟩

inductive Course where
  | body (frames : List (Option Frame))
  | otherwise
  | value (value : Option Value)

def courseOf (scope : Scope) (name : String) (args : List Value) (named : List (String × Value))
    (binders : List String) (hasOtherwise : Bool) : Except RenderError Course := do
  let includeZero := ((named.lookup "includeZero").bind Value.bool?).getD false
  match name with
  | "if" =>
    return if isTruthy includeZero (← argument name args 0) then .body [none] else .otherwise
  | "unless" =>
    return if isTruthy includeZero (← argument name args 0) then .otherwise else .body [none]
  | "with" =>
    let value ← argument name args 0
    return if isTruthy false value then
      .body [some ⟨value, if binders.length = 1 then itemNames binders value .null else [], []⟩]
      else .otherwise
  | "each" =>
    match ← argument name args 0 with
    | .array items =>
      return if items.isEmpty && hasOtherwise then .otherwise
        else .body ((arrayFrames binders items).map some)
    | .object members =>
      return if members.isEmpty && hasOtherwise then .otherwise
        else .body ((objectFrames binders members).map some)
    | _ => return .otherwise
  | "raw" => return .body [none]
  | _ =>
    let result ← callHelper scope.data name args named
    if !testNames.contains name then return .value result
    else if (result.map (isTruthy false)).getD false then return .body [none]
    else return .otherwise

structure Progress where
  partials : Partials
  atLineStart : Bool
  atTop : Bool

def Scope.write (scope : Scope) (text : String) (progress : Progress) : String × Progress :=
  match text.toList with
  | [] => ("", progress)
  | c :: rest =>
    let front := if progress.atLineStart && !isLineEnd c then scope.indent else ""
    (front ++ String.ofList (indentLines scope.indent.toList (c :: rest)),
      { progress with atLineStart := isLineEnd ((c :: rest).getLast (by simp)) })

def Scope.writeResult (scope : Scope) (text : String) (unindented : Bool) (progress : Progress) :
    String × Progress :=
  if unindented then (text, progress) else scope.write text progress

abbrev Rendered := Except RenderError (String × Progress)

abbrev Includer := Scope → List Element → Progress → Rendered

def bodyName : String := "@partial-block"

def ownName : String := "reply"

/-- The members that a value has for a partial with named arguments. The items of an array and the
characters of a text count as members by their positions. -/
def membersOf : Value → List (String × Value)
  | .object members => members
  | .array items => Keyed.ofEntries (items.zipIdx.map fun (item, index) => (toString index, item))
  | .string text =>
    Keyed.ofEntries (text.toList.zipIdx.map fun (c, index) =>
      (toString index, .string (String.ofList [c])))
  | _ => []

/-- The scope of a partial. Its value is that of the first argument, or else of the current block,
with the named arguments as further members. They are also names for all blocks inside. -/
def Scope.enterPartial (scope : Scope) (args : List Value) (named : List (String × Value))
    (indent : String) : Scope :=
  let base := args.headD scope.frame.value
  let value := if named.isEmpty then base
    else .object (named.foldl (fun members entry => Keyed.insert entry.1 entry.2 members)
      (membersOf base))
  { scope.enter ⟨value, named, []⟩ with indent := scope.indent ++ indent }

def Scope.included? (scope : Scope) (partials : Partials) (name : String) :
    Option (List Element) :=
  (partials.lookup name).or (if name = ownName then some scope.whole else none)

/-- The text that a name includes, and whether the next text begins a line: the body of an outer
tag, a partial, or else the body of the tag itself, which has been rendered already. -/
def Scope.include (inside : Scope) (includer : Includer) (name : String) (body : Option String)
    (progress done : Progress) : Except RenderError (String × Bool) :=
  match name == bodyName, inside.bodies.head? with
  | true, some text => .ok (text, progress.atLineStart)
  | _, _ =>
    match inside.included? done.partials name, body with
    | some elements, _ => do
      let (text, after) ←
        includer { inside with bodies := body.toList ++ inside.bodies } elements
          { progress with
            partials := done.partials
            atTop := name == ownName && (done.partials.lookup name).isNone }
      return (text, after.atLineStart)
    | none, some text => .ok (text, done.atLineStart)
    | none, none => .error (.unknownPartial name)

def Scope.renderEach (scope : Scope) (body : Scope → Progress → Rendered)
    (frames : List (Option Frame)) (progress : Progress) : Rendered := do
  let (text, done) ← frames.foldlM
    (fun (done : String × Progress) frame => do
      let (text, progress) ← body (scope.inside frame) { done.2 with atTop := false }
      return (done.1 ++ text, progress))
    ("", progress)
  -- What is defined in a block with a value of its own is forgotten at its end.
  let partials := if frames.any Option.isSome then progress.partials else done.partials
  return (text, { done with partials })

def definition (scope : Scope) (call : Call) (body : Option (List Element)) :
    Except RenderError (String × List Element) := do
  let args ← paramValues scope call.params
  let _ ← namedValues scope call.named
  if call.name ≠ "inline" then throw (.unknownDirective call.name)
  match args.head?, body with
  | some (.string name), some elements => return (name, elements)
  | _, _ => throw (.unsuitableArgument call.name)

mutual

def renderAll (includer : Includer) (scope : Scope) : List Element → Progress → Rendered
  | [], progress => .ok ("", progress)
  | element :: rest, progress => do
    let (text, progress) ← element.render includer scope progress
    let (texts, progress) ← renderAll includer scope rest progress
    return (text ++ texts, progress)

def Element.render (includer : Includer) (scope : Scope) (progress : Progress) :
    Element → Rendered
  | .text content => .ok (scope.write content progress)
  | .output source => do
    let (text, unindented) ← source.output scope
    return scope.writeResult text unindented progress
  | .call call => do
    let text := shownOrNothing (← call.find scope)
    return scope.writeResult text (unindentedNames.contains call.name) progress
  | .block ⟨name, params, named⟩ binders body otherwise => do
    let args ← paramValues scope params
    let namedArgs ← namedValues scope named
    match ← courseOf scope name args namedArgs binders otherwise.isSome with
    | .body frames =>
      scope.renderEach (fun inside => renderAll includer inside body) frames progress
    | .otherwise =>
      match otherwise with
      | some elements => renderAll includer scope elements { progress with atTop := false }
      | none => return ("", progress)
    | .value value =>
      return scope.writeResult (shownOrNothing value) (unindentedNames.contains name) progress
  | .inclusion source params named indent body => do
    let name ← source.written scope
    let args ← paramValues scope params
    let namedArgs ← namedValues scope named
    if name = ownName && progress.atTop then throw .includesItself
    let inside := scope.enterPartial args namedArgs indent
    let (text?, done) ← match body with
      | some elements => do
        let (text, done) ← renderAll includer inside elements { progress with atTop := false }
        pure (some text, done)
      | none => pure (none, progress)
    let (text, atLineStart) ← inside.include includer name text? progress done
    return (text, { progress with atLineStart })
  | .directive call body => do
    let entry ← definition scope call body
    return ("", { progress with partials := entry :: progress.partials })

end

def maximalInclusions : Nat := 256

def renderWithin : Nat → Includer
  | 0, _, _, _ => .error .tooDeep
  | bound + 1, scope, elements, progress =>
    renderAll (renderWithin bound) scope elements progress

def renderElements (elements : List Element) (data : Value) : Except RenderError String :=
  (renderWithin maximalInclusions (.ofData data elements) elements ⟨[], true, true⟩).map Prod.fst

end ApiMock.Template
