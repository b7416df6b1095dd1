import ApiMock.Value.Basic

/-!
# XML elements

An XML document as the tree of its elements, and the value that it is decoded into. An element
without attributes and child elements becomes its text; one with attributes only becomes an object
of the attributes and the text; one with child elements becomes an object of these, grouped by
name, and of the attributes. A name that occurs once has a single value, a repeated one an array in
the order of the document.
-/

set_option autoImplicit false

namespace ApiMock.Xml

/-- A name in a namespace, which is empty for a name outside of all namespaces. -/
structure Name where
  space : String
  localName : String
deriving DecidableEq

def Name.joined (name : Name) : String :=
  if name.space = "" then name.localName else name.space ++ ":" ++ name.localName

mutual

structure Element where
  name : Name
  attributes : List (Name × String)
  children : List Node

inductive Node where
  | element (element : Element)
  | text (content : String)
  | comment (content : String)
  | instruction (target content : String)

end

def attributesKey : String := "-attrs"

def contentKey : String := "content"

def Node.content : Node → String
  | .text content => content
  | _ => ""

namespace Element

def content (element : Element) : String := String.join (element.children.map Node.content)

def attributeMembers (element : Element) : List (String × Value) :=
  Keyed.ofEntries (element.attributes.map fun (name, value) => (name.joined, .string value))

end Element

def single : List Value → Value
  | [value] => value
  | values => .array values

def grouped (entries : List (String × Value)) : List (String × Value) :=
  (Keyed.collect entries).map fun (name, values) => (name, single values)

def assemble (content : String) (attributes : List (String × Value))
    (children : List (String × Value)) : Value :=
  match attributes, children with
  | [], [] => .string content
  | [], _ => .object (grouped children)
  | _, [] =>
    .object (Keyed.ofEntries
      [(attributesKey, .object attributes), (contentKey, .string content)])
  | _, _ => .object (Keyed.insert attributesKey (.object attributes) (grouped children))

mutual

def Element.value : Element → Value
  | ⟨name, attributes, children⟩ =>
    let element : Element := ⟨name, attributes, children⟩
    assemble element.content element.attributeMembers (childValues children)

def childValues : List Node → List (String × Value)
  | [] => []
  | .element element :: rest =>
    (element.name.joined, element.value) :: childValues rest
  | _ :: rest => childValues rest

end

def Element.documentValue (root : Element) : Value :=
  .object [(root.name.joined, root.value)]

end ApiMock.Xml
