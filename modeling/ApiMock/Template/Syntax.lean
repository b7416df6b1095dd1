import ApiMock.Value.Basic

/-!
# Templates

What a template is made of: texts, outputs of values, calls of helpers, and blocks whose body a
helper renders. Values are reached by paths from the block that is being rendered, from a block
around it, or from the root of the data.
-/

set_option autoImplicit false

namespace ApiMock.Template

inductive Origin where
  | root
  | block (outwards : Nat)
  | variable (outwards : Nat) (name : String)
deriving DecidableEq

structure Path where
  text : String
  origin : Origin
  names : List String
deriving DecidableEq

mutual

inductive Param where
  | literal (value : Value)
  | path (path : Path)
  | call (call : Call)

structure Call where
  name : String
  params : List Param
  named : List (String × Param)

end

inductive Element where
  | text (content : String)
  | output (source : Param)
  | call (call : Call)
  | block (call : Call) (binders : List String) (body : List Element)
      (otherwise : Option (List Element))
  /-- A partial template by name, with the blanks that indent its lines, and the body of the tag,
  which takes its place if there is none. -/
  | inclusion (name : Param) (params : List Param) (named : List (String × Param))
      (indent : String) (body : Option (List Element))
  | directive (call : Call) (body : Option (List Element))

inductive SyntaxError where
  | malformedTag
  | malformedLiteral
  | unclosedBlock (name : String)
  | unexpectedTag
  | mismatchedEnd (opened closed : String)
deriving DecidableEq

inductive RenderError where
  | unknownHelper (name : String)
  | unknownDirective (name : String)
  | unknownPartial (name : String)
  | missingArgument (helper : String) (position : Nat)
  | unsuitableArgument (helper : String)
  | notAnIndex (name : String)
  | includesItself
  | tooDeep
deriving DecidableEq

end ApiMock.Template
