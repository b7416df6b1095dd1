import ApiMock.Template.Token

/-!
# Blocks of templates

The tree of a template from its texts and tags. Blocks that are open form a stack, innermost first;
an end has to name the innermost one, and an alternative belongs to it.
-/

set_option autoImplicit false

namespace ApiMock.Template

structure Branch where
  call : Call
  binders : List String
  body : List Element

structure OpenBlock where
  head : Head
  before : List Element
  branches : List Branch := []
  current : Option (Call × List String)

namespace OpenBlock

def ofHead (head : Head) (before : List Element) : OpenBlock where
  head := head
  before := before
  current := match head with
    | .helper call binders => some (call, binders)
    | _ => none

def name (block : OpenBlock) : String :=
  match block.head with
  | .helper call _ => call.name
  | .directive call => call.name
  | .inclusion name _ => name.spelled

def isClosedBy (block : OpenBlock) (name : String) : Bool :=
  name == block.name ||
    match block.head with
    | .helper _ _ => false
    -- The end of a directive or of an inclusion need not repeat the name.
    | _ => name == ""

def startBranch? (block : OpenBlock) (next : Option (Call × List String)) (body : List Element) :
    Option OpenBlock :=
  block.current.map fun (call, binders) =>
    { block with branches := ⟨call, binders, body⟩ :: block.branches, current := next }

def nest (otherwise : Option (List Element)) : List Branch → Option (List Element)
  | [] => otherwise
  | branch :: earlier =>
    nest (some [.block branch.call branch.binders branch.body otherwise]) earlier

def close (block : OpenBlock) (body : List Element) : List Element :=
  match block.head, block.current with
  | .inclusion name arguments, _ =>
    [.inclusion name arguments.params arguments.named "" (some body)]
  | .directive call, _ => [.directive call (some body)]
  | .helper _ _, some (call, binders) =>
    (nest none (⟨call, binders, body⟩ :: block.branches)).getD []
  | .helper _ _, none => (nest (some body) block.branches).getD []

end OpenBlock

/-- Builds a tree from tokens, with the blocks that are open and the elements read in the innermost
one, last one first. -/
def build : List OpenBlock → List Element → List Token → Except SyntaxError (List Element)
  | [], elements, [] => .ok elements.reverse
  | block :: _, _, [] => .error (.unclosedBlock block.name)
  | blocks, elements, .text content :: rest => build blocks (.text content :: elements) rest
  | blocks, elements, .raw call binders content :: rest =>
    build blocks (.block call binders [.text content] none :: elements) rest
  | blocks, elements, .tag tag :: rest =>
    match tag, blocks with
    | .comment, _ | .raw _ _, _ => build blocks elements rest
    | .expression element, _ => build blocks (element :: elements) rest
    | .inclusion name arguments indent, _ =>
      let element := .inclusion name arguments.params arguments.named indent none
      build blocks (element :: elements) rest
    | .directive call, _ => build blocks (.directive call none :: elements) rest
    | .opening head, _ => build (.ofHead head elements :: blocks) [] rest
    | .chain call binders, block :: outer =>
      match block.startBranch? (some (call, binders)) elements.reverse with
      | some block => build (block :: outer) [] rest
      | none => .error .unexpectedTag
    | .otherwise, block :: outer =>
      match block.startBranch? none elements.reverse with
      | some block => build (block :: outer) [] rest
      | none => .error .unexpectedTag
    | .closing name, block :: outer =>
      if block.isClosedBy name then
        build outer ((block.close elements.reverse).reverse ++ block.before) rest
      else .error (.mismatchedEnd block.name name)
    | .chain _ _, [] | .otherwise, [] | .closing _, [] => .error .unexpectedTag

def readElements (source : String) : Except SyntaxError (List Element) := do
  build [] [] (← tokens source)

end ApiMock.Template
