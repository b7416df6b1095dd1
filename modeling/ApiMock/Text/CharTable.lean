/-!
# Tables of characters

Sets of characters as runs of code points, read from a compact text: each run gives in hexadecimal
its distance from the end of the one before and, behind a hyphen, how many characters follow its
first. A look-up bisects the runs. Mappings of characters are kept as runs too, with the distance by
which each character of the run is shifted.
-/

set_option autoImplicit false

namespace ApiMock

/-- A set of characters as ascending runs, each given by its first and its last code point. -/
structure CharTable where
  runs : Array (Nat × Nat)

def hexNumber (digits : List Char) : Nat :=
  digits.foldl
    (fun value c => value * 16 + (if c ≤ '9' then c.toNat - 0x30 else c.toNat - 0x57)) 0

def words (text : String) : List (List Char) :=
  let (word, done) := text.toList.foldr
    (fun c (word, done) => if c = ' ' then ([], word :: done) else (c :: word, done))
    (([] : List Char), ([] : List (List Char)))
  (word :: done).filter fun w => !w.isEmpty

namespace CharTable

def ofRuns (lines : List String) : CharTable :=
  let step (state : Nat × Array (Nat × Nat)) (word : List Char) : Nat × Array (Nat × Nat) :=
    let gap := word.takeWhile (· ≠ '-')
    let length := (word.dropWhile (· ≠ '-')).drop 1
    let first := state.1 + hexNumber gap
    let last := first + hexNumber length
    (last + 1, state.2.push (first, last))
  ⟨((lines.flatMap words).foldl step (0, #[])).2⟩

def ofRanges (ranges : List (Nat × Nat)) : CharTable :=
  let join (runs : List (Nat × Nat)) (range : Nat × Nat) : List (Nat × Nat) :=
    match runs with
    | (first, last) :: earlier =>
      if range.1 ≤ last + 1 then (first, max last range.2) :: earlier else range :: runs
    | [] => [range]
  let ascending := ranges.mergeSort fun a b => a.1 ≤ b.1
  ⟨((ascending.foldl join []).reverse).toArray⟩

def union (first second : CharTable) : CharTable :=
  ofRanges (first.runs.toList ++ second.runs.toList)

def gaps (start : Nat) : List (Nat × Nat) → List (Nat × Nat)
  | [] => if start ≤ 0x10FFFF then [(start, 0x10FFFF)] else []
  | (first, last) :: rest =>
    if start < first then (start, first - 1) :: gaps (last + 1) rest else gaps (last + 1) rest

def complement (table : CharTable) : CharTable := ⟨(gaps 0 table.runs.toList).toArray⟩

def diff (first second : CharTable) : CharTable := (first.complement.union second).complement

def search (runs : Array (Nat × Nat)) (code : Nat) : Nat → Nat → Nat → Bool
  | 0, _, _ => false
  | fuel + 1, low, high =>
    if low < high then
      let middle := (low + high) / 2
      match runs[middle]? with
      | none => false
      | some (first, last) =>
        if code < first then search runs code fuel low middle
        else if last < code then search runs code fuel (middle + 1) high
        else true
    else false

def hasCode (table : CharTable) (code : Nat) : Bool :=
  search table.runs code (table.runs.size + 1) 0 table.runs.size

def contains (table : CharTable) (c : Char) : Bool := table.hasCode c.toNat

end CharTable

/-- A row of characters, all or every second one, that are shifted by the same distance. -/
structure ShiftRun where
  first : Nat
  count : Nat
  stride : Nat
  distance : Int

namespace ShiftRun

/-- Reads a run: the first code point, `-` or `/` and the number of further characters for a row
without or with gaps, and `+` or `~` and the distance upwards or downwards. -/
def read (word : List Char) : ShiftRun :=
  let isMark (c : Char) : Bool := c == '-' || c == '/' || c == '+' || c == '~'
  let first := hexNumber (word.takeWhile fun c => !isMark c)
  let afterFirst := word.dropWhile fun c => !isMark c
  let (count, stride, shift) := match afterFirst with
    | '-' :: rest => (hexNumber (rest.takeWhile fun c => !isMark c) + 1, 1,
        rest.dropWhile fun c => !isMark c)
    | '/' :: rest => (hexNumber (rest.takeWhile fun c => !isMark c) + 1, 2,
        rest.dropWhile fun c => !isMark c)
    | rest => (1, 1, rest)
  let distance : Int := match shift with
    | '~' :: digits => -(hexNumber digits : Int)
    | digits => hexNumber (digits.drop 1)
  ⟨first, count, stride, distance⟩

def readAll (lines : List String) : List ShiftRun := (lines.flatMap words).map read

def covers (run : ShiftRun) (code : Nat) : Bool :=
  run.first ≤ code && (code - run.first) % run.stride == 0 &&
    (code - run.first) / run.stride < run.count

def apply (runs : List ShiftRun) (c : Char) : Char :=
  match runs.find? (·.covers c.toNat) with
  | some run => Char.ofNat (c.toNat + run.distance).toNat
  | none => c

def preimage (runs : List ShiftRun) (c : Char) : List Char :=
  runs.filterMap fun run =>
    let code := ((c.toNat : Int) - run.distance).toNat
    if run.covers code then some (Char.ofNat code) else none

end ShiftRun

def readExpansions (lines : List String) : List (Char × List Char) :=
  (lines.flatMap words).map fun word =>
    let source := word.takeWhile (· ≠ ':')
    let targets := (word.dropWhile (· ≠ ':')).drop 1
    let (last, done) := targets.foldr
      (fun c (code, done) => if c = '.' then ([], code :: done) else (c :: code, done))
      (([] : List Char), ([] : List (List Char)))
    (Char.ofNat (hexNumber source), (last :: done).map fun code => Char.ofNat (hexNumber code))

end ApiMock
