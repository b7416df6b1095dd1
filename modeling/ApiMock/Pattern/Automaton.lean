import ApiMock.Pattern.Automaton.Bytes
import ApiMock.Pattern.Automaton.Table

/-!
# The size of automata

How much memory the automata of an expression take, one that reads a text forwards and one that
reads it backwards. An expression is outlined as alternatives of parts: characters one behind the
other, sets of characters, and whatever else takes memory of its own. The outline is made along with
the expression, and simplified on the way: characters that follow each other join, alternatives
that are single characters or sets become a set, and a repetition of what is empty counts once.
-/

set_option autoImplicit false

namespace ApiMock.Pattern

/-- Memory in bytes: of the automaton that reads forwards and of the one that reads backwards. -/
structure Memory where
  forward : Nat
  backward : Nat

namespace Memory

def both (size : Nat) : Memory := ⟨size, size⟩

instance : Add Memory := ⟨fun a b => ⟨a.forward + b.forward, a.backward + b.backward⟩⟩

def sum (parts : List Memory) : Memory := parts.foldl (· + ·) (both 0)

def times (memory : Memory) (count : Nat) : Memory :=
  ⟨memory.forward * count, memory.backward * count⟩

end Memory

namespace Automaton

def state : Nat := 32

def edge : Nat := 8

def way : Nat := 4

def total (sizes : List Nat) : Nat := sizes.foldl (· + ·) 0

/-- The memory for the characters of a table. Forwards, states below which all is the same are
shared; backwards, those of the bytes that a character begins with. -/
def ofTable (table : CharTable) : Memory :=
  if table.runs.all fun (_, last) => last ≤ 0x7F then .both (2 * state + edge * table.runs.size)
  else
    let sequences := table.runs.toList.flatMap byteSequences
    let (_, nodes) := treeNodes (maximalBytes + 1) sequences
    { forward := state + total (nodes.eraseDups.map fun node => state + edge * node.edges)
      backward :=
        2 * state + way * sequences.length + state * total (nodes.map TreeNode.edges) }

/-- Words in pieces: a piece ends in front of each word that is empty. -/
def pieces (words : List (List Nat)) : List (List (List Nat)) :=
  words.foldr
    (fun word pieces =>
      match word, pieces with
      | [], _ => [] :: pieces
      | _, piece :: rest => (word :: piece) :: rest
      | _, [] => [[word]])
    [[]]

def dropRepeatedEmpty : List (List Nat) → List (List Nat)
  | [] :: [] :: rest => dropRepeatedEmpty ([] :: rest)
  | words => words

/-- The memory of a tree of words with at most so many letters. Words that begin alike share their
states up to the first word that ends on the way. -/
def ofTree : Nat → List (List Nat) → Nat
  | 0, _ => 0
  | depth + 1, words =>
    if words.all List.isEmpty then 0
    else
      let pieces := pieces (dropRepeatedEmpty words)
      let ofPiece (piece : List (List Nat)) : Nat :=
        let heads := (piece.filterMap List.head?).eraseDups
        let below := heads.map fun head =>
          ofTree depth ((piece.filter fun word => word.head? = some head).map List.tail)
        match heads with
        | [] => 0
        | [_] => way + state + total below
        | _ => way + state + edge * heads.length + total below
      state + way * (pieces.length - 1) + total (pieces.map ofPiece)

def ofTexts (texts : List (List Nat)) : Nat :=
  state + ofTree (((texts.map List.length).foldl max 0) + 1) texts

end Automaton

/-! ## Outlines -/

/-- What a part of an expression takes, and what it is known to do: whether it always takes a
character, whether it never does, and whether it holds the beginning or the end of the text. -/
structure Extent where
  memory : Memory
  consumes : Bool
  isEmpty : Bool
  atStart : Bool := false
  atEnd : Bool := false

inductive Atom where
  | text (characters : List Char)
  | set (table : CharTable)
  | other (extent : Extent)

def Atom.bytes (characters : List Char) : List Nat :=
  characters.flatMap fun c => Automaton.bytesOf c.toNat

def Atom.extent : Atom → Extent
  | text characters =>
    { memory := .both (Automaton.state * (bytes characters).length)
      consumes := true
      isEmpty := false }
  | set table =>
    { memory := Automaton.ofTable table
      consumes := !table.runs.isEmpty
      isEmpty := false }
  | other extent => extent

structure Outline where
  choices : List (List Atom)

namespace Outline

def empty : Outline := ⟨[[]]⟩

def leads (feature : Extent → Bool) : List Extent → Bool
  | [] => false
  | extent :: rest => feature extent || (extent.isEmpty && leads feature rest)

def sequenceExtent (atoms : List Atom) : Extent :=
  let extents := atoms.map Atom.extent
  { memory :=
      if atoms.isEmpty then .both Automaton.state else .sum (extents.map Extent.memory)
    consumes := extents.any Extent.consumes
    isEmpty := extents.all Extent.isEmpty
    atStart := leads Extent.atStart extents
    atEnd := leads Extent.atEnd extents.reverse }

def textBytes? : List Atom → Option (List Nat)
  | [.text characters] => some (Atom.bytes characters)
  | _ => none

def extent (outline : Outline) : Extent :=
  match outline.choices with
  | [atoms] => sequenceExtent atoms
  | choices =>
    let extents := choices.map sequenceExtent
    let memory : Memory := match choices.mapM textBytes? with
      | some texts => ⟨Automaton.ofTexts texts, Automaton.ofTexts (texts.map List.reverse)⟩
      | none =>
        .both (2 * Automaton.state + Automaton.way * choices.length) +
          .sum (extents.map Extent.memory)
    { memory
      consumes := extents.all Extent.consumes
      isEmpty := extents.all Extent.isEmpty
      atStart := extents.all Extent.atStart
      atEnd := extents.all Extent.atEnd }

def ofExtent (extent : Extent) : Outline := ⟨[[.other extent]]⟩

def ofTable (table : CharTable) : Outline :=
  match table.runs.toList with
  | [(first, last)] =>
    if first = last then ⟨[[.text [Char.ofNat first]]]⟩ else ⟨[[.set table]]⟩
  | _ => ⟨[[.set table]]⟩

def ofSet (set : CharSet) : Outline := ofTable set.toTable

def ofAssertion (condition : Assertion) : Outline :=
  ofExtent
    { memory := .both Automaton.state
      consumes := false
      isEmpty := true
      atStart := condition matches .startOfText
      atEnd := condition matches .endOfText }

def prepend (atom : Atom) (atoms : List Atom) : List Atom :=
  match atom, atoms with
  | .text first, .text second :: rest => .text (first ++ second) :: rest
  | _, _ => atom :: atoms

def atoms (outline : Outline) : List Atom :=
  match outline.choices with
  | [atoms] => atoms
  | _ => [.other outline.extent]

def inSequence (outlines : List Outline) : Outline :=
  ⟨[(outlines.flatMap atoms).foldr prepend []]⟩

def table? : List Atom → Option CharTable
  | [.text [c]] => some ⟨#[(c.toNat, c.toNat)]⟩
  | [.set table] => some table
  | _ => none

def inAlternation (outlines : List Outline) : Outline :=
  let choices := outlines.flatMap Outline.choices
  match choices, choices.mapM table? with
  | _ :: _ :: _, some (first :: others) => ofTable (others.foldl CharTable.union first)
  | _, _ => ⟨choices⟩

def group (outline : Outline) : Outline :=
  let extent := outline.extent
  ofExtent { extent with memory := extent.memory + ⟨2 * Automaton.state, 0⟩ }

def repeatedMemory (extent : Extent) (least : Nat) (most : Option Nat) : Memory :=
  let copies (count : Nat) : Memory :=
    if count = 0 then .both Automaton.state else extent.memory.times count
  let fork : Memory := .both (Automaton.state + 2 * Automaton.way)
  let joint : Memory := .both Automaton.state
  match least, most with
  | 0, some 1 => fork + extent.memory + joint
  | 0, none =>
    if extent.consumes then fork + extent.memory else fork + fork + joint + extent.memory
  | least, none => copies least + fork
  | least, some most =>
    if least = most then copies least
    else copies least + joint + (fork + extent.memory).times (most - least)

/-- A repetition. What is empty counts at most once. -/
def repeated (outline : Outline) (least : Nat) (most : Option Nat) : Outline :=
  let extent := outline.extent
  let (least, most) :=
    if extent.isEmpty then (min least 1, some (min (most.getD 1) 1)) else (least, most)
  match least, most with
  | 0, some 0 => empty
  | 1, some 1 => outline
  | _, _ =>
    ofExtent
      { memory := repeatedMemory extent least most
        consumes := extent.consumes && 0 < least
        isEmpty := extent.isEmpty
        atStart := extent.atStart && 0 < least
        atEnd := extent.atEnd && 0 < least }

/-- The memory of the whole automata: the expression, remembered and followed by the end of the
match, behind a loop that skips what is in front unless the expression holds on to the side where
reading begins. -/
def memory (outline : Outline) : Memory :=
  let extent := outline.extent
  let search (held : Bool) : Nat :=
    if held then Automaton.state
    else 3 * Automaton.state + 2 * Automaton.way + Automaton.edge
  extent.memory +
    ⟨3 * Automaton.state + search extent.atStart, Automaton.state + search extent.atEnd⟩

def maximalMemory : Nat := 10 * 0x100000

def isTooLarge (outline : Outline) : Bool :=
  let memory := outline.memory
  maximalMemory < max memory.forward memory.backward

end Outline

end ApiMock.Pattern
