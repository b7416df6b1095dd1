import ApiMock.Text.CharTable

/-!
# Characters at boundaries

Characters with a part of their own where a text is divided into signs, words and sentences, by
Unicode 16.
-/

set_option autoImplicit false

namespace ApiMock.Boundary

def complexContext : CharTable := .ofRuns
  ["e01-2f 1-1 c-6 3a-1 1 1-4 1-17 1 1-9 1-1 9 2-4 1 15-3 120-2a 14 10-5 4-3 3 3-1 7-2 4-c c",
   "6f1-33 23 4 173-1d 2-4 b-2b 4-19 56-34 52 8f38-4 1-9 a-4 61-16 3 3-31 1 3-1 2-4 2 1 18-2",
   "6c22-1a 25-6"]

/-- The characters that are no letters and belong to words as if they were. -/
def letterLike : CharTable := .ofRuns
  ["b8 209-3 c-5 6-1 5-6 1 1-10 25a-2 1 2b 68 11b 9ff8-e 9-1 67-1 3d0"]

def katakana : CharTable := .ofRuns
  ["3031-4 65-1 3-5a 1-3 f0-f d0-2e 1-57 cc0e-37 b052-3 1-6 1-1 1 11f-2 32 e-3"]

def hebrewLetter : CharTable := .ofRuns
  ["5d0-1a 4-3 f52a 1-9 1-c 1-4 1 1-1 1-1 1-9"]

def midLetter : CharTable := .ofRuns
  ["3a 7c 2cf 1d7 94 1a32 ddeb 41 c4"]

def midNumber : CharTable := .ofRuns
  ["2c e 342 20a 82-1 5e 18b 184b de0b 3 b7 e"]

def midNumberLetter : CharTable := .ofRuns
  ["2e 1fe9-1 a de2d b4 6"]

def extendNumberLetter : CharTable := .ofRuns
  ["5f 1fcf f-1 13 ddde-1 18-2 ef"]

/-- The ends of lines other than carriage returns and line feeds. -/
def newline : CharTable := .ofRuns
  ["b-1 78 1fa2-1"]

def wordSpace : CharTable := .ofRuns
  ["20 165f 97f-6 1-2 54 fa0"]

/-- The characters other than decimal digits that belong to numbers. -/
def numberLike : CharTable := .ofRuns
  ["600-5 65 71 1b2-1 50 10f7 f6e2 f"]

def fullStop : CharTable := .ofRuns
  ["2e 1ff5 de2d bb"]

def sentenceContinue : CharTable := .ofRuns
  ["2c-1 c-1 342 1de ae-1 1ea 1009 5 80a-1 fec ce0e-1 1-1 1c-1 1d-1 2-1 2 a a8-1 c-1 48"]

def separator : CharTable := .ofRuns
  ["85 1fa2-1"]

def quoteLike : CharTable := .ofRuns
  ["22 4 2733-5 69f-1 4-2 2 1c86a-2"]

/-- The letters with case that sentences take as letters without. -/
def caselessLetter : CharTable := .ofRuns
  ["10d0-2a 2-2 b90-2a 2-2"]

def prependedLetter : CharTable := .ofRuns
  ["d4e 10473-1 20d 56d 1 142-5 2bc 1bb"]

def spacingVowel : CharTable := .ofRuns
  ["e33 7f"]

/-- The spacing marks that do not belong to what is in front of them. -/
def looseMark : CharTable := .ofRuns
  ["102b-1 b 29-2 2-6 15 3-5 2 a-2 9c4 1-1 9016 1 6ca2-1"]

def leadingJamo : CharTable := .ofRuns
  ["1100-5f 9800-1c"]

def vowelJamo : CharTable := .ofRuns
  ["1160-47 c608-16 959c 3-3"]

def trailingJamo : CharTable := .ofRuns
  ["11a8-57 c5cb-30"]

def syllableBlock : Nat := 28

def syllableBlocks : List Nat := (List.range 399).map fun block => 0xAC00 + syllableBlock * block

def openSyllable : CharTable := ⟨(syllableBlocks.map fun code => (code, code)).toArray⟩

def closedSyllable : CharTable :=
  ⟨(syllableBlocks.map fun code => (code + 1, code + syllableBlock - 1)).toArray⟩

end ApiMock.Boundary
