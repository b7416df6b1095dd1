import ApiMock.Pattern.Syntax

/-!
# Sets of characters as tables

A set of characters that an expression describes, as the runs of code points that it holds.
-/

set_option autoImplicit false

namespace ApiMock.Pattern.CharSet

def withCodes (table : CharTable) (codes : List Nat) : CharTable :=
  table.union (.ofRanges (codes.map fun code => (code, code)))

def foldTable (table : CharTable) : CharTable :=
  let folded := withCodes table (Case.foldings.filterMap fun (code, folding) =>
    if table.hasCode code then some folding else none)
  withCodes folded (Case.foldings.filterMap fun (code, folding) =>
    if folded.hasCode folding then some code else none)

def foldAsciiTable (table : CharTable) : CharTable :=
  withCodes table ((List.range 26).flatMap fun position =>
    let upper := 'A'.toNat + position
    let lower := 'a'.toNat + position
    (if table.hasCode upper then [lower] else []) ++ if table.hasCode lower then [upper] else [])

def toTable : CharSet → CharTable
  | range first last => if first ≤ last then ⟨#[(first.toNat, last.toNat)]⟩ else ⟨#[]⟩
  | table t => t
  | union left right => left.toTable.union right.toTable
  | inter left right => (left.toTable.complement.union right.toTable.complement).complement
  | diff left right => left.toTable.diff right.toTable
  | symmDiff left right =>
    (left.toTable.diff right.toTable).union (right.toTable.diff left.toTable)
  | complement set => set.toTable.complement
  | folded set => foldTable set.toTable
  | asciiFolded set => foldAsciiTable set.toTable

end ApiMock.Pattern.CharSet
