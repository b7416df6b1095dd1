import ApiMock.Text.CharTable

/-!
# Characters as sequences of bytes

An automaton reads a text byte by byte. A range of characters becomes a few sequences of ranges of
bytes: the bytes of each character of the range lie in the ranges of exactly one sequence, and all
that lies in the ranges of a sequence are the bytes of such a character. Sequences that begin alike
share a tree, and nodes of the tree below which all is the same are one state of an automaton.
-/

set_option autoImplicit false

namespace ApiMock.Pattern.Automaton

abbrev ByteRange := Nat × Nat

def bytesOf (code : Nat) : List Nat := (String.utf8EncodeChar (Char.ofNat code)).map UInt8.toNat

/-- Where a range of code points is to be cut: behind the last one with fewer bytes, or where the
last bytes of a block begin or end. -/
def cut? (first last : Nat) : Option Nat :=
  match [0x7F, 0x7FF, 0xFFFF].find? fun bound => first ≤ bound ∧ bound < last with
  | some bound => some bound
  | none =>
    if last ≤ 0x7F then none
    else
      [0x40, 0x1000, 0x40000].findSome? fun block =>
        if first / block = last / block then none
        else if first % block ≠ 0 then some ((first / block + 1) * block - 1)
        else if last % block ≠ block - 1 then some (last / block * block - 1)
        else none

def cutSequences : Nat → Nat → Nat → List (List ByteRange)
  | 0, _, _ => []
  | fuel + 1, first, last =>
    match cut? first last with
    | some middle => cutSequences fuel first middle ++ cutSequences fuel (middle + 1) last
    | none => [(bytesOf first).zip (bytesOf last)]

def byteSequences (range : Nat × Nat) : List (List ByteRange) :=
  let part (first last : Nat) : List (List ByteRange) :=
    if first ≤ last then cutSequences 32 first last else []
  part range.1 (min range.2 0xD7FF) ++ part (max range.1 0xE000) range.2

/-- A node of a tree of sequences: what is below it, written down as numbers, and its edges. -/
structure TreeNode where
  below : List Nat
  edges : Nat
deriving BEq

def treeNodes : Nat → List (List ByteRange) → List Nat × List TreeNode
  | 0, _ => ([0x101], [])
  | depth + 1, sequences =>
    if sequences.all List.isEmpty then ([0x101], [])
    else
      let edges := (sequences.splitBy fun a b => a.head? == b.head?).map fun group =>
        let (below, nodes) := treeNodes depth (group.map List.tail)
        match group.head?.bind List.head? with
        | some (first, last) => (first :: last :: below, nodes)
        | none => (below, nodes)
      let below := edges.flatMap Prod.fst ++ [0x100]
      (below, ⟨below, edges.length⟩ :: edges.flatMap Prod.snd)

def maximalBytes : Nat := 4

end ApiMock.Pattern.Automaton
