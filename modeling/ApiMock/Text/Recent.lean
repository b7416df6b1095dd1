import ApiMock.Text.CharTable

/-!
# Recent characters

What Unicode 17 adds to the tables of Unicode 16, by which regular expressions go. Case conversion
and quoted texts know the characters that are added too.
-/

set_option autoImplicit false

namespace ApiMock.Recent

/-- The characters that are added, but for marks that attach themselves to the one in front. -/
def visible : CharTable := .ofRuns
  ["88f 3cc 7f 13e4 ad4 7c37-1 2 1 1c 53d1-f 1bd-1 36-6 b71-19 56b-2 8-8 c88 3 1 248-2b 4-9",
   "50b6-18 2-18 11e-4 1801-7 509-15 61-72 3f07-2 1bd-16 f-10 17cf-1e 1-2 1-1 1-6 2-4 9-1 fd8",
   "9e-3 155-8 17b-3 32 3 39 4 1c 4 10a bb3f-5 1762-b 5502-10c9"]

def alphabetic : CharTable := .ofRuns
  ["88f 3cc 7f 9af1-1 2 1 1c 614e-19 56b-2 32-1 c64-7 248-2b 50c4-18 2-18 11e-4 1801-7 509-15",
   "61-72 58cd-1e 1-15 8-1 d03a-5 1762-b 5502-10c9"]

def numeric : CharTable := .ofRuns
  ["11de0-9 520a-2"]

def cased : CharTable := .ofRuns
  ["a7ce-1 2 1 1c c6ae-18 2-18"]

def caseIgnorable : CharTable := .ofRuns
  ["1acf-e 2-b 8d05 66d3 34-1 c64 1-2 1 272 5218-1 76ef 2 7-1 5 9"]

end ApiMock.Recent
