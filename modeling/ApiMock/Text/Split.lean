/-!
# Splitting texts

Cutting a list of characters at a mark: at every one, or at the first. A mark is a character or a
word.
-/

set_option autoImplicit false

namespace ApiMock.Split

def atEach (mark : Char) : List Char → List (List Char)
  | [] => [[]]
  | c :: rest =>
    if c = mark then [] :: atEach mark rest
    else
      match atEach mark rest with
      | part :: parts => (c :: part) :: parts
      | [] => [[c]]

def atFirst (mark : Char) : List Char → List Char × Option (List Char)
  | [] => ([], none)
  | c :: rest =>
    if c = mark then ([], some rest)
    else
      let (before, after) := atFirst mark rest
      (c :: before, after)

def dropWord? : List Char → List Char → Option (List Char)
  | [], text => some text
  | _, [] => none
  | a :: word, b :: text => if a = b then dropWord? word text else none

def atWord? (word : List Char) : List Char → Option (List Char × List Char)
  | [] => if word = [] then some ([], []) else none
  | c :: rest =>
    match dropWord? word (c :: rest) with
    | some after => some ([], after)
    | none => (atWord? word rest).map fun (before, after) => (c :: before, after)

def strings (mark : Char) (text : String) : List String :=
  (atEach mark text.toList).map String.ofList

end ApiMock.Split
