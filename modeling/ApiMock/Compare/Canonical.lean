import ApiMock.Value.Basic

/-!
# Canonical strings

A text of a value that does not depend on the order of arrays: scalars as their text, arrays as
their sorted items and objects as their names and values in ascending order of the names, all joined
by points. Arrays whose order does not matter are compared after a stable sort by these texts.
Different values may have the same text.
-/

set_option autoImplicit false

namespace ApiMock.Value

def joinPoints (chunks : List String) : String := ".".intercalate chunks

def sortTexts (texts : List String) : List String := texts.mergeSort (· ≤ ·)

mutual

def canonical : Value → String
  | null => ""
  | bool true => "true"
  | bool false => "false"
  | number n => n.canonical
  | string s => s
  | array items => joinPoints (sortTexts (canonicalItems items))
  | object members => joinPoints (canonicalMembers members)

def canonicalItems : List Value → List String
  | [] => []
  | item :: rest => canonical item :: canonicalItems rest

def canonicalMembers : List (String × Value) → List String
  | [] => []
  | (name, value) :: rest => name :: canonical value :: canonicalMembers rest

end

/-- Sorts what has been labelled by its label; equal labels keep their order. -/
def sortLabelled {α : Type} (labelled : List (String × α)) : List α :=
  (labelled.mergeSort fun a b => a.1 ≤ b.1).map Prod.snd

def sortByCanonical (items : List Value) : List Value :=
  sortLabelled (items.map fun item => (item.canonical, item))

end ApiMock.Value
