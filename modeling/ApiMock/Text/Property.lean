import ApiMock.Text.CharTable

/-!
# Binary properties

The characters that have a binary property of Unicode 16, by the long and the short name of the
property in lower case and without separators.
-/

set_option autoImplicit false

namespace ApiMock.Property

def asciiHexDigit : CharTable := .ofRuns
  ["30-9 7-5 1a-5"]

def alphabetic : CharTable := .ofRuns
  ["41-19 6-19 2f a 4 5-16 1-1e 1-1c9 4-b e-4 7 1 56 1d-11 1-1 2-3 1 6 1-2 1 1-13 1-52 1-8a 8-a5",
   "1-25 2 6-28 27-d 1 1-1 1-1 1 8-1a 4-3 1d-a 5-37 1-6 e-65 1-7 4-7 4-2 a-2 2 10-2f d-64 18-20",
   "9-1 4 5-17 2-12 13-18 7-a 5-17 1-5 8 8-29 a-b 3-6 6-4b 1-f 1-2 4-e d-12 1-7 2-1 2-15 1-6 1",
   "3-3 3-7 2-1 2-1 1 8 4-1 1-4 c-1 a 4-2 1-5 4-1 2-15 1-6 1-1 1-1 1-1 4-4 4-1 2-1 4 7-3 1 11-5",
   "b-2 1-8 1-2 1-15 1-6 1-1 1-4 3-8 1-2 1-1 3 f-3 15-3 4-2 1-7 2-1 2-15 1-6 1-1 1-4 3-7 2-1 2-1",
   "9-1 4-1 1-4 d 10-1 1-5 3-2 1-3 3-1 1 1-1 3-1 3-2 3-b 4-4 3-2 1-2 3 6 28-c 1-2 1-16 1-f 3-7",
   "1-2 1-2 8-1 1-2 2 2-3 1c-3 1-7 1-2 1-16 1-9 1-4 3-7 1-2 1-2 8-1 6-1 1-3 d-2 c-c 1-2 1-28 2-7",
   "1-2 1-2 1 5-3 7-4 16-5 1-2 1-11 3-17 1-8 1 2-6 8-5 1 1-7 12-1 d-39 5-6 6 33-1 1 1-4 1-17 1",
   "1-12 1-2 2-4 1 6 e-3 20 3f-7 1-23 4-12 4-f 1-23 43-36 1 2-4 10-3f a-3 2-25 1 5 2-2a 1-14c",
   "1-3 2-6 1 1-3 2-28 1-3 2-20 1-3 2-6 1 1-3 2-e 1-38 1-3 2-42 25-f 10-55 2-5 3-26b 2-10 1-19",
   "5-4a 3-a 7-13 b-14 c-13 c-c 1-2 1-1 c-33 2-12 e 4 43-58 7-2a 5-45 a-1e 1-b 4-8 17-1d 2-4",
   "b-2b 4-19 36-1b 4-3e 2-13 32 17-1 b-2 31-33 1-e 1-7 33-29 2-3 a-2b 1-a e-36 16-2 a-23 2-a",
   "5-2a 2-2 29-3 1-5 1-1 3 5-bf 13-21 b-115 2-5 2-25 2-5 2-7 1 1 1 1-1e 2-34 1-6 1 3-2 1-6 3-3",
   "2-5 4-c 5-2 1-6 74 d 10-c 65 4 2-9 1 3-4 6 1 1 1-3 1-a 2-3 5-4 4 11-28 32d-33 716-e4 6-3 3-1",
   "c-25 1 5 2-37 7 10-16 9-6 1-6 1-6 1-6 1-6 1-6 1-6 1-6 1-1f 2f 1d5-2 19-8 7-4 2-4 4-55 6-2",
   "1-59 1-3 5-2a 1-5d 11-1f 30-f 200-19bf 40-568c 43-2d 2-10c 3-f a-1 14-2e 5-7 3-70 27-8 2-66",
   "2-42 2-1 1 1-7 15-13 1-20 18-33 c-43 1 2c-5 3 1-2 a-20 5-22 d-1c 3-32 1-b f 10-f a-4 1-36",
   "9-d 12-16 3-44 1 1 18-2 2-f 2-3 b-5 2-5 2-5 9-6 1-6 1-2a 1-d 6-7a 15-2ba3 c-16 4-30 2104-16d",
   "2-69 26-6 c-4 5-b 1-c 1-4 1 1-1 1-1 1-6b 21-16a 12-3f 2-35 28-b 74-4 1-86 24-19 6-19 b-58",
   "3-5 2-5 2-5 2-2 23-b 1-19 1-12 1-1 1-e 2-d 22-7a 45-34 10b-1c 3-30 2f-1f d-1d 5-2a 5-1d 2-23",
   "4-7 1-4 2a-9d 12-23 4-23 4-27 8-33 c-a 1-e 1-6 1-1 1-a 1-e 1-6 1-1 3-33 c-136 9-15 a-7 18-5",
   "1-29 1-8 45-5 2 1-2b 1-1 3 2-16 a-16 9-1e 41-12 1-1 a-15 a-19 46-37 6-1 40-3 1-1 5-7 1-2",
   "1-1c 2a-1c 3-1c 23-7 1-1b 1b-35 a-15 a-12 d-11 6e-48 37-32 d-32 d-27 22-1b 3 5-16 fa-29 1-1",
   "3-1 10-2 37 3-1c a 8-15 2a-11 2e-14 1b-16 9-45 2b-4 a-38 9 d-18 17-32 11-3 8-22 3 9-3f 1-3",
   "9-1 a 1 23-11 1-21 2 6-3 3e-6 1 1-3 1-e 1-9 7-38 17-3 1-7 2-1 2-15 1-6 1-1 1-4 3-7 2-1 2-1 3",
   "6 5-6 1c-9 1 2 1-25 1-9 1 2 1-3 1-1 3 1 2c-41 1-2 1-3 14-2 1e-41 2-1 1 b8-35 2-6 19-5 22-3e",
   "1 3 3b-35 2 47-1a 2-d 15-6 b9-38 67-3f 1f-7 2 2-7 1-1 1-1d 1-1 2-1 2-3 5d-7 2-2d 2-5 1 1-1",
   "1b-32 2-9 11-47 5 12-48 c7-20 1f-8 1-2c 1-6 1 31-1d 2-15 1-d 49-6 1-1 1-2b 3 1-1 1-2 1 2-1",
   "18-5 1-1 1-24 1-1 1-3 1 147-16 9-10 1-28 3-2 6f 4f-399 66-6e 11-c3 a4c-60 f-42f 11-5 19-f9a",
   "5-246 1ab9-2e 6d1-238 7-1e 11-4e 11-1d 12-2f 10-3 1f-14 5-12 1b0-2c d3-3f 80-4a 4-38 7-10",
   "40-1 1 c-1 e-17f7 8-4d5 29-9 22e7-3 1-6 1-1 1-122 f 1d-2 2 e-3 8-18b 904-6a 5-c 3-8 7-9 4",
   "1761-54 1-46 1-1 2 2-1 2-3 1-b 1 1-6 1-40 1-3 2-7 1-6 1-1b 1-3 1-4 1 3-6 1-153 2-18 1-18",
   "1-1e 1-18 1-1e 1-18 1-1e 1-18 1-1e 1-18 1-7 734-1e 6-5 d5-6 1-10 2-6 1-1 1-4 5-3d 21 70-2c",
   "a-6 10 141-1d 12-2b 1e4-1b e4-1d 2 1ef-6 1-3 1-1 1-e 1-c4 3b-43 3 3 4b4-3 1-1a 1-1 1 2 1-9",
   "1-3 1 1 6 4 1 1 1-2 1-1 1 2 1 1 1 1 1-1 1 2-3 1-6 1-3 1-3 1 1-9 1-10 5-2 1-4 1-10 274-19",
   "6-19 6-19 e76-a6df 20-1039 6-dd 2-1681 e-1d30 f-26d 9a2-21d 5e2-134a 5-105f"]

def bidiControl : CharTable := .ofRuns
  ["61c 19f1-1 1a-4 37-3"]

def bidiMirrored : CharTable := .ofRuns
  ["28-1 12 1 1c 1 1d 1 2d f e7e-3 75d-1 99c-1 a-1 36-1 e-1 b1 c0-3 3-5 3 3-1 3-3 1-3 1 1 4-8 5",
   "1-11 5-3 9-1 1 1-7 1-1f 2-3 5 9-1 2-12 5-1 9-4 2-1 4-17 2-f 8-3 14-1 7-1 43d-d 4a 2-3 1-1",
   "1-2 5-3 5-2 3-d 193-15 2-5 1-d 8 7-5 3 4-4 1-1 2-4 4 1-2 2-1 a-5 2-1 c-12 1-3 2 1 2 1-3 5-1",
   "6-2 18-1 b-1 4-3 1-1 2-1 4-2a 2-7 1-27 5 1 3-4 5-2 4 3-4 1 100 203-3 3-1 1-1 e-1 2-9 2b-7",
   "1ab-9 2-7 ce3d-5 5-1 a2-1 12 1 1c 1 1d 1 1-1 1-1 d777 39 39 39 39"]

def caseIgnorable : CharTable := .ofRuns
  ["27 6 b 23 1 47 4 1 4 2-1 1f7-bf 4-1 4 9-1 1 fb-6 cf 5 31-2c 1 1-1 1-1 1 2c b-5 a-a 1 23 a-14",
   "10 65-7 1-9 1-3 21 1 1e-1a 5b-a 3a-a 4 2 18-17 2b-2 2c 7-1 5-8 29-39 37 1 4-7 4 3-6 a-1 d f",
   "3a 4-3 8 14-1 1a 2-1 39 4-1 4-1 2-2 3 1e-1 3 b-1 39 4-4 1-1 4 14-1 16-5 1 3a 2 1-3 8 7-1 b-1",
   "1e 3d c 32 3 37 1-2 5-2 1-3 7-1 b-1 1d 3a 2 6 5-1 14-1 1c-1 39-1 4-3 8 14-1 1d 48 7-2 1 5a",
   "2-6 b-8 62 2-8 9 1-6 49-1 1b 1 1 37-d 1-4 1-1 5-a 1-23 9 66-3 1-5 1-1 2-1 19-1 4-2 10-3 d",
   "2-1 6 f 5e 260-2 3b2-2 1d-1 1e-1 1e-1 40-1 1-6 8 2-a 3 5 2d-4 33 41-1 22 76-2 4-1 9 6-2 db-1",
   "2 3a 1-6 1 1 2-7 6-9 2 27 8-1e 31-3 30 1-4 1 5 28-8 c-1 20-3 2-1 1-2 38 1-1 3 1-2 3a-7 2-1",
   "40-5 52-2 1-c 1-6 4 6 3-1 32-3e d 22-64 1bd 1-2 b-2 d-2 d-2 d-1 c-4 8-1 a 2 2-4 31-4 1-9 1 d",
   "10-c 33-20 b8b-1 71-2 7d f 60-1f 2f 1d5 24-3 3-4 5 5d-5 5d-2 6f16 4e2-5 10e 62-3 1-9 1 1c-3",
   "50-1 e-21 4e 17-2 67-2 3-1 8 3 4 19-1 5 97-1 1a-11 d 26-7 19-a 2e-2 30 2-3 2-1 11 15-1 42-5",
   "2-1 2-1 c 8 23 b 33 1-2 2-1 5-1 1 1b e-1 5-1 1 64-4 9-2 79 2 4 4f30 93-10 23d-f 3 c-f 22 2",
   "a9 7 6 b 23 1 2f 2d-1 43 15-2 201 e2 95-4 405-5 1-29 1-8 246-2 1-1 5-3 28-2 4 a5-1 23d-3 26",
   "1a-4 1 13b-1 4f-3 46-a 31-3 7b 36-e 29 2-1 a-2 31-3 2-1 2 4 a 32-2 24-4 1-7 3e c-1 34-8 a-3",
   "2 5f-2 2 1-1 6 2 9d 3-7 15-1 39-1 3 25-6 3-4 46-5 d 1 1 e-1 55-7 2-2 1 17 54-5 1 4-1 1-1",
   "ee-3 6-1 1-1 1b-1 55-7 2 1-1 6a 1 2-5 1 65 1 2-3 1-4 103-8 1-1 100-1 1 4 90-3 2-1 4 20-9",
   "28-5 2-3 8 9-5 2-2 2e-c 1-1 196-6 1-5 1 52-15 2-6 1-1 1-1 7a-5 3 1-1 1-6 1 48-1 3 1 15b-1",
   "b-1 34-4 5 1 17 14d5-10 6-e 2cc8-b 3-2 9c0-4 3b-6 9-3 1fc-2 28-1 1e2 3f-10 40-1 1-1 400b-3",
   "1-6 1-1 c9e-1 1-3 125c-2d 2-16 220-2 9-f 2-6 1e-3 94-2 7bb-36 4-31 8 e 16-4 1-e 550-6 1-10",
   "2-6 1-1 1-4 5-3d 21 a0-d 170 3d-3 1fb-4 fe-1 2e0-6 6d-7 aaf-4 c0c01 1e-5f 80-ef"]

def cased : CharTable := .ofRuns
  ["41-19 6-19 2f a 4 5-16 1-1e 1-c2 1-3 4-cf 1-23 7-1 1e-4 60 2a-3 2-1 2-3 1 6 1-2 1 1-13 1-52",
   "1-8a 8-a5 1-25 9-28 b17-25 1 5 2-2a 1-3 2a0-55 2-5 882-a 5-2a 2-2 40-bf 40-115 2-5 2-25 2-5",
   "2-7 1 1 1 1-1e 2-34 1-6 1 3-2 1-6 3-3 2-5 4-c 5-2 1-6 74 d 10-c 65 4 2-9 1 3-4 6 1 1 1-3 1-5",
   "4 2-3 5-4 4 11-1f 3-1 331-33 716-e4 6-3 3-1 c-25 1 5 7912-2d 12-1d 84-65 3-3 1-3d 2-1 1 1-7",
   "15-4 1-2 335-2a 1-d 6-4f 4f40-6 c-4 409-19 6-19 4a5-4f 60-23 4-23 74-a 1-e 1-6 1-1 1-a 1-e",
   "1-6 1-1 1c3 2-2 1-29 1-8 4c5-32 d-32 5d-15 a-15 b1a-3f 5560-3f 6580-54 1-46 1-1 2 2-1 2-3",
   "1-b 1 1-6 1-40 1-3 2-7 1-6 1-1b 1-3 1-4 1 3-6 1-153 2-18 1-18 1-1e 1-18 1-1e 1-18 1-1e 1-18",
   "1-1e 1-18 1-7 734-9 1-13 6-5 105-3d 892-43 7ec-19 6-19 6-19"]

def changesWhenCasefolded : CharTable := .ofRuns
  ["41-19 5a a-16 1-7 20 1 1 1 1 1 1 1 1 1 1 1 1 1 1 1 1 1 1 1 1 1 1 1 1 1 1 1 2 1 1 1 1 1 1 1",
   "1-1 1 1 1 1 1 1 1 1 1 1 1 1 1 1 1 1 1 1 1 1 1 1 1-1 1 1 1 1-1 1 1-1 1-2 2-3 1-1 1-2 3-1 1-1",
   "1 1 1-1 1 2 1-1 1-2 1 1-1 3 7-1 1-1 1-1 1 1 1 1 1 1 1 1 2 1 1 1 1 1 1 1 1 2-1 1 1-2 1 1 1 1",
   "1 1 1 1 1 1 1 1 1 1 1 1 1 1 1 1 1 1 1 1 1 1 1 1 1 7-1 1-1 2 1-3 1 1 1 1 f6 2a 1 3 8 6 1-2 1",
   "1-1 1-10 1-8 16 c-2 3-1 1 1 1 1 1 1 1 1 1 1 1 1 1-1 2-1 1 1-1 2-32 30 1 1 1 1 1 1 1 1 1 1 1",
   "1 1 1 1 1 9 1 1 1 1 1 1 1 1 1 1 1 1 1 1 1 1 1 1 1 1 1 1 1 1 1 1 1-1 1 1 1 1 1 1 2 1 1 1 1 1",
   "1 1 1 1 1 1 1 1 1 1 1 1 1 1 1 1 1 1 1 1 1 1 1 1 1 1 1 1 1 1 1 1 1 1 1 1 1 1 1 1 1 1 2-25 30",
   "b18-25 1 5 32a-5 882-9 6-2a 2-2 140 1 1 1 1 1 1 1 1 1 1 1 1 1 1 1 1 1 1 1 1 1 1 1 1 1 1 1 1",
   "1 1 1 1 1 1 1 1 1 1 1 1 1 1 1 1 1 1 1 1 1 1 1 1 1 1 1 1 1 1 1 1 1 1 1 1 1 1 1 1 1 1 1 1 1 1",
   "5-1 2 1 1 1 1 1 1 1 1 1 1 1 1 1 1 1 1 1 1 1 1 1 1 1 1 1 1 1 1 1 1 1 1 1 1 1 1 1 1 1 1 1 1 1",
   "1 1 1 1 1 9-7 8-5 a-7 8-7 8-5 b 1 1 1 8-7 10-2f 2-2 2-5 5-2 2-5 b-3 c-4 5-2 2-5 129 3-1 6",
   "2d-f 13 332-19 730-2f 30 1-2 2 1 1 1-3 1 2 8-2 1 1 1 1 1 1 1 1 1 1 1 1 1 1 1 1 1 1 1 1 1 1 1",
   "1 1 1 1 1 1 1 1 1 1 1 1 1 1 1 1 1 1 1 1 1 1 1 1 1 1 8 1 4 794d 1 1 1 1 1 1 1 1 1 1 1 1 1 1 1",
   "1 1 1 1 1 1 1 13 1 1 1 1 1 1 1 1 1 1 1 1 1 87 1 1 1 1 1 1 3 1 1 1 1 1 1 1 1 1 1 1 1 1 1 1 1",
   "1 1 1 1 1 1 1 1 1 1 1 1 1 1 a 1 1-1 1 1 1 1 4 1 2 1 3 1 1 1 1 1 1 1 1 1 1-4 1-4 1 1 1 1 1 1",
   "1 1-3 1 1-1 3 5 1 1 1 18 37a-4f 4f40-6 c-4 409-19 4c5-27 88-23 9c-a 1-e 1-6 1-1 6ea-32 9d-15",
   "b3a-1f 5580-1f 7aa0-21"]

def changesWhenLowercased : CharTable := .ofRuns
  ["41-19 65-16 1-6 21 1 1 1 1 1 1 1 1 1 1 1 1 1 1 1 1 1 1 1 1 1 1 1 1 1 1 1 2 1 1 1 1 1 1 1 2 1",
   "1 1 1 1 1 1 1 1 1 1 1 1 1 1 1 1 1 1 1 1 1 1-1 1 1 3-1 1 1-1 1-2 2-3 1-1 1-2 3-1 1-1 1 1 1-1",
   "1 2 1-1 1-2 1 1-1 3 7-1 1-1 1-1 1 1 1 1 1 1 1 1 2 1 1 1 1 1 1 1 1 2-1 1 1-2 1 1 1 1 1 1 1 1",
   "1 1 1 1 1 1 1 1 1 1 1 1 1 1 1 1 1 1 1 1 1 7-1 1-1 2 1-3 1 1 1 1 121 1 3 8 6 1-2 1 1-1 1-10",
   "1-8 23 8 1 1 1 1 1 1 1 1 1 1 1 5 2 1-1 2-32 30 1 1 1 1 1 1 1 1 1 1 1 1 1 1 1 1 9 1 1 1 1 1 1",
   "1 1 1 1 1 1 1 1 1 1 1 1 1 1 1 1 1 1 1 1 1-1 1 1 1 1 1 1 2 1 1 1 1 1 1 1 1 1 1 1 1 1 1 1 1 1",
   "1 1 1 1 1 1 1 1 1 1 1 1 1 1 1 1 1 1 1 1 1 1 1 1 1 1 1 1 1 1 2-25 b49-25 1 5 2d2-55 893 6-2a",
   "2-2 140 1 1 1 1 1 1 1 1 1 1 1 1 1 1 1 1 1 1 1 1 1 1 1 1 1 1 1 1 1 1 1 1 1 1 1 1 1 1 1 1 1 1",
   "1 1 1 1 1 1 1 1 1 1 1 1 1 1 1 1 1 1 1 1 1 1 1 1 1 1 1 1 1 1 1 1 9 1 1 1 1 1 1 1 1 1 1 1 1 1",
   "1 1 1 1 1 1 1 1 1 1 1 1 1 1 1 1 1 1 1 1 1 1 1 1 1 1 1 1 1 1 1 1 1 1 1 9-7 8-5 a-7 8-7 8-5 b",
   "1 1 1 8-7 18-7 8-7 8-7 8-4 b-4 b-3 c-4 b-4 129 3-1 6 2d-f 13 332-19 730-2f 30 1-2 2 1 1 1-3",
   "1 2 8-2 1 1 1 1 1 1 1 1 1 1 1 1 1 1 1 1 1 1 1 1 1 1 1 1 1 1 1 1 1 1 1 1 1 1 1 1 1 1 1 1 1 1",
   "1 1 1 1 1 1 1 8 1 4 794d 1 1 1 1 1 1 1 1 1 1 1 1 1 1 1 1 1 1 1 1 1 1 13 1 1 1 1 1 1 1 1 1 1",
   "1 1 1 87 1 1 1 1 1 1 3 1 1 1 1 1 1 1 1 1 1 1 1 1 1 1 1 1 1 1 1 1 1 1 1 1 1 1 1 1 1 a 1 1-1 1",
   "1 1 1 4 1 2 1 3 1 1 1 1 1 1 1 1 1 1-4 1-4 1 1 1 1 1 1 1 1-3 1 1-1 3 5 1 1 1 18 572b-19",
   "4c5-27 88-23 9c-a 1-e 1-6 1-1 6ea-32 9d-15 b3a-1f 5580-1f 7aa0-21"]

def changesWhenUppercased : CharTable := .ofRuns
  ["61-19 3a 29-17 1-7 1 1 1 1 1 1 1 1 1 1 1 1 1 1 1 1 1 1 1 1 1 1 1 1 1 1 1 1 2 1 1 1 1 1 1 1-1",
   "1 1 1 1 1 1 1 1 1 1 1 1 1 1 1 1 1 1 1 1 1 1 1 2 1 1-2 2 1 2 3 5 2 3-2 2 2 1 1 2 4 2 3 1 2 3",
   "1 5-1 1-1 1-1 1 1 1 1 1 1 1 1-1 1 1 1 1 1 1 1 1 1-1 1-1 1 3 1 1 1 1 1 1 1 1 1 1 1 1 1 1 1 1",
   "1 1 1 3 1 1 1 1 1 1 1 1 8 2-1 1 4 1 1 1 1-5 1-1 1 1-1 3-1 1-3 1-4 2 1-1 2 7 2 1-1 3-5 5 a-1",
   "a6 2b 1 3 3-2 12 1b-22 1-1 3-2 1 1 1 1 1 1 1 1 1 1 1 1-4 1 2 2 34-2f 1 1 1 1 1 1 1 1 1 1 1 1",
   "1 1 1 1 1 9 1 1 1 1 1 1 1 1 1 1 1 1 1 1 1 1 1 1 1 1 1 1 1 1 1 1 2 1 1 1 1 1 1-1 1 1 1 1 1 1",
   "1 1 1 1 1 1 1 1 1 1 1 1 1 1 1 1 1 1 1 1 1 1 1 1 1 1 1 1 1 1 1 1 1 1 1 1 1 1 1 1 1 1 31-26",
   "b48-2a 2-2 2f8-5 882-8 1 ee 3 10 72 1 1 1 1 1 1 1 1 1 1 1 1 1 1 1 1 1 1 1 1 1 1 1 1 1 1 1 1",
   "1 1 1 1 1 1 1 1 1 1 1 1 1 1 1 1 1 1 1 1 1 1 1 1 1 1 1 1 1 1 1 1 1 1 1 1 1 1 1 1 1 1 1 1 1",
   "1-6 5 1 1 1 1 1 1 1 1 1 1 1 1 1 1 1 1 1 1 1 1 1 1 1 1 1 1 1 1 1 1 1 1 1 1 1 1 1 1 1 1 1 1 1",
   "1 1 1 1-8 8-5 a-7 8-7 8-5 a-7 8-7 8-d 2-34 1-1 4 1 3-2 1-1 4 3-3 2-1 8-7 a-2 1-1 4 151 21-f",
   "4 34b-19 746-2f 1 3-1 1 1 1 6 2 a 1 1 1 1 1 1 1 1 1 1 1 1 1 1 1 1 1 1 1 1 1 1 1 1 1 1 1 1 1",
   "1 1 1 1 1 1 1 1 1 1 1 1 1 1 1 1 1 1 1 1 8 1 4 c-25 1 5 7913 1 1 1 1 1 1 1 1 1 1 1 1 1 1 1 1",
   "1 1 1 1 1 1 13 1 1 1 1 1 1 1 1 1 1 1 1 1 87 1 1 1 1 1 1 3 1 1 1 1 1 1 1 1 1 1 1 1 1 1 1 1 1",
   "1 1 1 1 1 1 1 1 1 1 1 1 1 a 1 2 1 1 1 1 4 4 1-1 2 1 1 1 1 1 1 1 1 1 b 1 1 1 1 1 1 1 4 1 2 3",
   "5 1 1 1a 35c 1c-4f 4f40-6 c-4 429-19 4cd-27 88-23 9b-a 1-e 1-6 1-1 703-32 7d-15 b3a-1f",
   "5580-1f 7aa2-21"]

def dash : CharTable := .ofRuns
  ["2d 55c 33 e41 405 809-5 3d 27 f 186 c04 2 1f-1 4 1c 1be 13 6f cd90-1 25 a a9 e60 13e"]

def defaultIgnorableCodePoint : CharTable := .ofRuns
  ["ad 2a1 2cc b42-1 653-1 55-4 7fb-4 1a-4 31-f 10f4 cc9b-f ef a0 4f-8 bca7-3 14cf-7 c2e85-fff"]

def deprecated : CharTable := .ofRuns
  ["149 529 903 1 829-1 8c5-5 2b9-1 ddcd6"]

def diacritic : CharTable := .ofRuns
  ["5e 1 47 6 4 2-1 1f7-9e 1-7 5-5 11-1 4 9-1 fd-4 d1 37-2c 1 1-1 1-1 1 83-7 4-1 86-1 4-1 3-2",
   "43-1a 5b-a 3a-a 22-1 7e-7 29-9 10-1b 3d 10 3-3 1c 4a 10 6e 10 6e 10 2f-2 3c 10 7 77 6e 10 6e",
   "10 6d-1 10 7c 6f c-5 1 6b d-4 4b-1 1b 1 1 4-1 42-2 1-1 3e 70 1-1 28-1 4-4 19-6 1 a-1 2c1-2",
   "3b4-1 1e 94-a 9 15b-2 124 14-7 2 30-e 2-a 68 f 26-8 36-1 3a b-1 42-1 40-5 52-18 4 6 2-2",
   "32-3e 30-23 5-b 25-a 1bd 1-2 b-2 d-2 d-2 d-1 cf0-2 13d 1fa-5 69-3 5f 7572 c-1 1 1c-1 52-1",
   "e-21 66-2 6d-1 c 25 97 1b-11 39-3 24 5f c 24 95-2 41-3 33 64-4 9-2 80-1 4f30 301-f 10e 1 2f",
   "2d-1 43 2fc 49f-5 1-29 1-8 27d-2 4 a5-1 23b-5 26 1a-4 18f-2 46-a 31-3 c0 29 48-1 78-1 3e 4c",
   "9-2 68-1 b2-1 50-1 10 18-6 3-4 59-2 1-1 d-1 5f 3 7b-1 fb-1 7e 76-1 73 10d-1 102-1 4 9c 53 12",
   "51 1a5 102 1-1 51 1a9-1 17 14ec-e 2cd9 9c0-4 3b-6 234-1 222-10 50-1 3ffe-3 1-6 1-1 1f01-2d",
   "2-16 220-2 3-5 8-7 2-6 1e-3 e82-3d c2-6 177 3d-3 2fe-1 2e0-6 6d-2 1-2"]

def emoji : CharTable := .ofRuns
  ["23 6 5-9 6f 4 1f8d c d8 16 5a-5 f-1 16f-1 c a6 19-a 4-2 c7 e7-1 a 9 3a-3 1-4 9 2 2-1 2 4 2",
   "1-1 2 3 3-1 8-2 5 1 5-b b-1 2 1-1 1 12 2-1 12-5 1 1-1 3-1 5 2-1 4-1 b-1 5-1 2 5-1 1 1-1 14-1",
   "5-5 1-3 2 4 2 2-5 1 2 1 1 6 3 6 a-1 f 2 4 1 4-2 1 b-1 30-2 9 e e 174-1 1cf-2 13-1 33 4 4da c",
   "259 1 1bd6a ca a0-1 c-1 e 2-9 4b-19 1-1 17 14 2-8 15-1 ae-21 2-6f 2-1 1-2 2-52 2-2 1-106",
   "1-3e b-5 1-17 7-1 2-7 c 2-3 2 4-1 d-1 2 8-1 9 5-2 c-2 8-2 2 1 4 6 3 6-55 30-45 5-7 2-2 4-9 3",
   "1-1 3 2-9 e3-b 4 11b-2e 1-9 1-b8 70-c 3-9 5-37 7-e 2-a 6-8"]

def emojiComponent : CharTable := .ofRuns
  ["23 6 5-9 1fd3 d5 dd2b f3d6-19 1fb-4 5b0-3 c066c-5f"]

def emojiModifier : CharTable := .ofRuns
  ["1f3fb-4"]

def emojiModifierBase : CharTable := .ofRuns
  ["261d db 10-3 1cc77 3c-2 2 2-2 75-1 2-a 15-12 3 4-2 1-2 7 1 18 c9-1 4 15 4-1 ae-2 3-4 53 10-2",
   "9 b 23f 2 8-7 6 9-9 2-2 38 3d-1 1-1 1 11-2 1-c e5-2 2a-8"]

def emojiPresentation : CharTable := .ofRuns
  ["231a-1 cd-3 3 2 209-1 15-1 32-b 2b 13 d 8-1 11-1 5-1 8 5 15 7-1 1 4 2 7 4-1 1c 23 1 4-2 1",
   "3d-2 18 e 35b-1 33 4 1c4ae ca be 2-9 4b-19 1 18 14 2-4 1-2 15-1 ae-20 c-8 1-45 1-15 c-2a 4-4",
   "c-10 3 3-46 1 1-ba 2-3e d-3 1-17 12 1a-1 d 56-54 30-45 6 3-2 2-2 4-3 b-1 7-8 e3-b 4 11b-2e",
   "1-9 1-b8 70-c 3-9 5-37 7-e 2-a 6-8"]

def extendedPictographic : CharTable := .ofRuns
  ["a9 4 1f8d c d8 16 5a-5 f-1 16f-1 c 5f 46 19-a 4-2 c7 e7-1 a 9 3a-3 1-5 1-b 1-71 a-75 2-a 1 1",
   "6 3 6 a-1 f 2 4 1 4-2 1 b-4 2d-2 9 e e 174-1 1cf-2 13-1 33 4 4da c 259 1 1bd66-ff d-2 1f",
   "3c-5 c-1 e 2-9 12-38 1b-e a 14 2-8 1-3 9-1b1 5-13d 8-109 30-7f 74-b 55-2a c-3 38-7 a-5 28-7",
   "1e-3 a-3 2-3d c-2e 1-9 1-1b8 100-3fd"]

def extender : CharTable := .ofRuns
  ["b7 218-1 36e 1b9 276 89 59 2f0 7f 943 38 263 18e 44 1389 2b-4 67-1 5d-2 6f16 5f6 3c2 16 89",
   "6c 15-1 547b 810-1 5cb 1b 4 4c7 125 74-1 1f2-2 4cf 50a9-1 49c-1 1 7158-1 4b1 354-2"]

def graphemeExtend : CharTable := .ofRuns
  ["300-6f 113-6 107-2c 1 1-1 1-1 1 48-a 30-14 10 65-6 2-5 2-1 1-3 23 1e-1a 5b-a 3a-8 9 18-3 1-8",
   "1-2 1-4 2b-2 3b-8 2a-17 1-1f 37 1 4-7 4 3-6 a-1 1d 3a 1 2-3 8 9 a-1 1a 2-1 39 4-1 4-1 2-2 3",
   "1e-1 3 b-1 39 4-4 1-1 4 14-1 16-5 1 3a 1-1 1-3 8 7-2 a-1 1e 3b 1 c 9 28 3 37 1-2 5-2 1-3 7-1",
   "b-1 1d 3a 2-1 1 3-2 1-3 7-1 b-1 1c-1 39-1 1 2-3 8 9 a-1 1d 48 4 2-2 1 8 51 2-6 c-7 62 2-8",
   "b-6 49-1 1b 1 1 37-d 1-4 1-1 5-a 1-23 9 66-3 1-5 1-1 2-1 19-1 4-2 10-3 d 2-1 6 f 2bf-2 3b2-3",
   "1c-2 1d-1 1e-1 40-1 1-6 8 2-a 9 2d-2 1 75-1 22 76-2 4-1 9 6-2 db-1 2 3a 1-6 1 1 2-7 6-9 2",
   "30-1e 31-3 30-9 4-2 26-8 c-1 20-3 2-5 38 1-1 3 1-4 38-7 2-1 98-2 1-c 1-6 4 6 3-1 c6-3f 20c",
   "c3-20 bfe-2 8d 60-1f 22a-5 69-1 75d4-3 1-9 20-1 50-1 110 3 4 19-1 5 97-1 1a-11 d 26-7 19-a 1",
   "2c-2 30 2-3 2-1 2 24 43-5 2-1 2-1 c 8 2f 33 1-2 2-1 5-1 1 2a-1 8 ee 2 4 4f30 2e1-f 10-f",
   "16e-1 25d e2 95-4 686-2 1-1 5-3 28-2 4 a5-1 23d-3 41-4 13d-1 4f-3 46-a 31-3 7b 36-e 29 2-1",
   "a-2 31-3 2-1 7 3d-2 24-4 1-7 3e c-1 34-8 1 8-3 2 5f-2 2-3 6 2 9d 3-7 15-1 39-1 1 1 c 9 e-6",
   "3-4 43 2-5 1 2 1-2 4-2 1 e-1 55-7 2-2 1 17 51 2-5 1 2 1-1 1-1 eb 2-3 6-1 1-1 1b-1 55-7 2 1-1",
   "6a 1 2-7 65 1 2-3 1-4 103-8 1-1 f5 a-3 4 90-3 2-1 4 20-9 28-5 2-3 8 9-5 2-2 2e-c 1-1 196-6",
   "1-5 1 52-15 2-6 1-1 1-1 7a-5 3 1-1 1-6 1 48-1 3 1 15b-1 b-1 34-4 5-2 17 14e5 6-e 2cc8-b 3-2",
   "9c0-4 3b-6 418 3f-3 51 b-1 4cab-1 1261-2d 2-16 21e-4 3-5 8-7 2-6 1e-3 94-2 7bb-36 4-31 8 e",
   "16-4 1-e 550-6 1-10 2-6 1-1 1-4 64 a0-6 177 3d-3 1fc-3 fe-1 2e0-6 6d-6 c16d5-5f 80-ef"]

def graphemeLink : CharTable := .ofRuns
  ["94d 7f 7f 7f 7f 7f 7f 7f 6d-1 10 7c 6f 7f c9 b4-1 6d9-1 1e 9d 28d e3 65-1 46-1 118b 7a86 25",
   "97 8e 6c 135 f6 5e51 606 29 e 39 79-1 8b 74 b4 62 80-2 71 7f fc 7f 76 74 10d 103-1 a1 53 12",
   "51 1a5 104-1 51 1a9-1 41ec"]

def hexDigit : CharTable := .ofRuns
  ["30-9 7-5 1a-5 fea9-9 7-5 1a-5"]

def hyphen : CharTable := .ofRuns
  ["2d 7f 4dc 127b 809-1 e05 2e3 cd67 a9 57"]

def idsBinaryOperator : CharTable := .ofRuns
  ["2ff0-1 2-9 1f1"]

def idsTrinaryOperator : CharTable := .ofRuns
  ["2ff2-1"]

def idsUnaryOperator : CharTable := .ofRuns
  ["2ffe-1"]

def idCompatMathStart : CharTable := .ofRuns
  ["2202 4 16 1b4a2 19 1f 19 1f 19 1f 19 1f 19"]

def ideographic : CharTable := .ofRuns
  ["3006-1 19-8 e-2 3c5-19bf 40-51ff 5900-16d 2-69 750a 1b-17f7 8-4d5 29-9 2467-18b 4d04-a6df",
   "20-1039 6-dd 2-1681 e-1d30 f-26d 9a2-21d 5e2-134a 5-105f"]

def joinControl : CharTable := .ofRuns
  ["200c-1"]

def logicalOrderException : CharTable := .ofRuns
  ["e40-4 7b-4 af0-2 2 90fa-1 2 1-1"]

def lowercase : CharTable := .ofRuns
  ["61-19 2f a 4 24-17 1-7 1 1 1 1 1 1 1 1 1 1 1 1 1 1 1 1 1 1 1 1 1 1 1 1 1 1 1 1-1 1 1 1 1 1 1",
   "1 1-1 1 1 1 1 1 1 1 1 1 1 1 1 1 1 1 1 1 1 1 1 1 1 1 2 1 1-2 2 1 2 3-1 4 2 3-2 2 2 1 1 2 1-1",
   "1 2 3 1 2-1 2-2 6 2 2 1 1 1 1 1 1 1 1-1 1 1 1 1 1 1 1 1 1-1 2 1 3 1 1 1 1 1 1 1 1 1 1 1 1 1",
   "1 1 1 1 1 1 1 1 1 1 1 1 1 1 1 1-6 2 2-1 1 4 1 1 1 1-44 1-23 7-1 1e-4 60 2b 1 3 2-3 12 1b-22",
   "1-1 3-2 1 1 1 1 1 1 1 1 1 1 1 1-4 1 2 2-1 33-2f 1 1 1 1 1 1 1 1 1 1 1 1 1 1 1 1 1 9 1 1 1 1",
   "1 1 1 1 1 1 1 1 1 1 1 1 1 1 1 1 1 1 1 1 1 1 2 1 1 1 1 1 1-1 1 1 1 1 1 1 1 1 1 1 1 1 1 1 1 1",
   "1 1 1 1 1 1 1 1 1 1 1 1 1 1 1 1 1 1 1 1 1 1 1 1 1 1 1 1 1 1 1 1 30-28 b47-2a 1-3 2f8-5 882-8",
   "1 75-bf 41 1 1 1 1 1 1 1 1 1 1 1 1 1 1 1 1 1 1 1 1 1 1 1 1 1 1 1 1 1 1 1 1 1 1 1 1 1 1 1 1 1",
   "1 1 1 1 1 1 1 1 1 1 1 1 1 1 1 1 1 1 1 1 1 1 1 1 1 1 1 1 1 1 1 1 1-8 1 1 1 1 1 1 1 1 1 1 1 1",
   "1 1 1 1 1 1 1 1 1 1 1 1 1 1 1 1 1 1 1 1 1 1 1 1 1 1 1 1 1 1 1 1 1 1 1 1 1-8 8-5 a-7 8-7 8-5",
   "a-7 8-7 8-d 2-7 8-7 8-7 8-4 1-1 6 3-2 1-1 8-3 2-1 8-7 a-2 1-1 79 d 10-c 6d 3-1 3 1b 4 4 2-1",
   "8-3 4 21-f 4 34b-19 746-2f 1 3-1 1 1 1 4 1-1 1-7 3 1 1 1 1 1 1 1 1 1 1 1 1 1 1 1 1 1 1 1 1 1",
   "1 1 1 1 1 1 1 1 1 1 1 1 1 1 1 1 1 1 1 1 1 1 1 1 1 1 1 1-1 7 1 4 c-25 1 5 7913 1 1 1 1 1 1 1",
   "1 1 1 1 1 1 1 1 1 1 1 1 1 1 1 13 1 1 1 1 1 1 1 1 1 1 1 1 1-2 85 1 1 1 1 1 1-2 1 1 1 1 1 1 1",
   "1 1 1 1 1 1 1 1 1 1 1 1 1 1 1 1 1 1 1 1 1 1 1 1-9 1 1 2 1 1 1 1 4 1 2 1-2 1 1 1 1 1 1 1 1 1",
   "1 5 5 1 1 1 1 1 1 1 4 1 2 3 1 1 1 1 1 16-2 1 1-2 335-2a 1-d 6-4f 4f40-6 c-4 429-19 4cd-27",
   "88-23 9b-a 1-e 1-6 1-1 1c3 2-2 1-29 1-8 505-32 7d-15 b3a-1f 5580-1f 659a-19 1a-6 1-11 1a-19",
   "1a-3 1 1-6 1-a 1a-19 1a-19 1a-19 1a-19 1a-19 1a-19 1a-19 1a-19 1a-1b 1c-18 1-5 1a-18 1-5",
   "1a-18 1-5 1a-18 1-5 1a-18 1-5 1 734-9 1-13 6-5 105-3d 8b4-21"]

def math : CharTable := .ofRuns
  ["2b 10-2 1f 1d 1 2d 4 25 1f 2d8-2 2 1a-1 2-2 20f-2 1a0d 1b-2 b 3 d e-3 15-4 b-4 41-c 4 3-1",
   "4-4 12 4 2-9 1 2-5 6 3-1 2-1 1-2 1-5 3-d 1 44-17 1-5 1-1 4-1 4-1f 1 6-1 e-10b 8-3 14-1 5a",
   "1e-1a 1 18 b-6 1bd-1 c-9 4-5 4-1 2-1 3-4 e 1 2-5 b-7 5-1 39 1 1d-3 9-2 150-3f 100-1ff 30-14",
   "2-5 cfdc 337-5 1 a2 10-2 1d 1 1d 1 83 6-3 da1-1 c670-54 1-46 1-1 2 2-1 2-3 1-b 1 1-6 1-40",
   "1-3 2-7 1-6 1-1b 1-3 1-4 1 3-6 1-153 2-123 2-31 1600-3 1-1a 1-1 1 2 1-9 1-3 1 1 6 4 1 1 1-2",
   "1-1 1 2 1 1 1 1 1-1 1 2-3 1-6 1-3 1-3 1 1-9 1-10 5-2 1-4 1-10 34-1"]

def modifierCombiningMark : CharTable := .ofRuns
  ["654-1 2 83 6 3-1 1e1-1 1-2 3 1f"]

def noncharacterCodePoint : CharTable := .ofRuns
  ["fdd0-1f 20e-1 fffe-1 fffe-1 fffe-1 fffe-1 fffe-1 fffe-1 fffe-1 fffe-1 fffe-1 fffe-1 fffe-1",
   "fffe-1 fffe-1 fffe-1 fffe-1 fffe-1"]

def otherDefaultIgnorableCodePoint : CharTable := .ofRuns
  ["34f e0f-1 653-1 8af 10fe ce3b 4f-8 d0007 1-1d 60-7f f0-e0f"]

def otherIdContinue : CharTable := .ofRuns
  ["b7 2cf fe1-8 668 631-1 10ed ce69"]

def otherIdStart : CharTable := .ofRuns
  ["1885-1 891 15 f6c-1"]

def patternSyntax : CharTable := .ofRuns
  ["21-e a-6 1a-3 1 1a-3 22-6 1 1-1 1 1-1 4 4 3 17 1f 1f18-17 8-e 2-12 1-9 131-2cf a0-275 1e-46b",
   "200-7f 181-2 4-18 f cd0d-1 105-1"]

def patternWhiteSpace : CharTable := .ofRuns
  ["9-4 12 64 1f88-1 18-1"]

def prependedConcatenationMark : CharTable := .ofRuns
  ["600-5 d7 31 180-1 50 107da f"]

def quotationMark : CharTable := .ofRuns
  ["22 4 83 f 1f5c-7 19-1 e07 1c9-3 d-2 ce21-3 bd 4 5a-1"]

def radical : CharTable := .ofRuns
  ["2e80-19 1-58 c-d5"]

def regionalIndicator : CharTable := .ofRuns
  ["1f1e6-19"]

def sentenceTerminal : CharTable := .ofRuns
  ["21 c 10 549 93-2 b4 2b-2 f6 3d 1 3-1 125-1 6e4-1 316 4-1 305 c6-1 9d-1 2d 5 13a-1 162-3 a2-1",
   "a-1 2-1 1d-2 bb-1 41-1 3a4 17-1 9-2 caf-2 132 d 16-1 1ad 74fc 10e-1 e3 3 17e-1 56-1 5f 98-1",
   "93-2 90-1 f9 5226 2-1 3b 3-1 a9 c 10 41 af4-1 4fd-4 2c-3 bd-1 75-3 7f-2 81-1 6 10-1 58-1 1-1",
   "6c 12a-1 75-1 175-1 5-e 69-1 f9-2 205 1 fb-1 57-1 1a4-1 2b4-1 4a-1 4b29-1 85 41-1 b 229-1",
   "128 4e06 1de8"]

def softDotted : CharTable := .ofRuns
  ["69-1 c4 119 1e 34 14 140 62 1 1909 33 d 3 84 9d 1a5 d6-1 b32 1a7a5-1 32-1 32-1 32-1 32-1",
   "32-1 32-1 32-1 32-1 32-1 32-1 32-1 32-1 886 131-1 1a"]

def terminalPunctuation : CharTable := .ofRuns
  ["21 a 1 b-1 3 33e 8 201 39 48 e 1-2 b4 2b-a 1 eb-1 36-5 1-7 1f 105-1 4f4-1 ac 4-5 137-1 315-7",
   "305 7c-2 47-1 9d-2 3 27-3 2-1 13a-1 162-3 a2-1 a-1 1-2 1d-2 bb-4 3e-1 3a4 17-1 9-2 caf-2 132",
   "d 4 a 1-1 3-1 1ac-1 74fb-1 10d-2 e3-4 17e-1 56-1 5f 97-2 93-2 7f 10-1 f9 5226 2-1 39-2 1-3",
   "a9 a 1 b-1 3 41 2 43a 30 486 c7 136-1 98-5 44-5 59-3 3b8-4 2c-3 bd-6 70-3 7f-2 81-1 6 10-1",
   "58-4 6c 12a-1 75-2 c-1 166-3 3-e 69-1 f9-2 205 1 fb-1 57-1 4-1 19e-2 2d 285-1 4a-1 52b-4",
   "45f9-1 85 41-2 a 229-1 127-1 4e06 1de7-3"]

def unifiedIdeograph : CharTable := .ofRuns
  ["3400-19bf 40-51ff 5a0e-1 1 1-1 a 1 1-1 2-2 105d6-a6df 20-1039 6-dd 2-1681 e-1d30 f-26d",
   "11a2-134a 5-105f"]

def uppercase : CharTable := .ofRuns
  ["41-19 65-16 1-6 21 1 1 1 1 1 1 1 1 1 1 1 1 1 1 1 1 1 1 1 1 1 1 1 1 1 1 1 2 1 1 1 1 1 1 1 2 1",
   "1 1 1 1 1 1 1 1 1 1 1 1 1 1 1 1 1 1 1 1 1 1-1 1 1 3-1 1 1-1 1-2 2-3 1-1 1-2 3-1 1-1 1 1 1-1",
   "1 2 1-1 1-2 1 1-1 3 7 2 2 2 1 1 1 1 1 1 1 2 1 1 1 1 1 1 1 1 2 2 1-2 1 1 1 1 1 1 1 1 1 1 1 1",
   "1 1 1 1 1 1 1 1 1 1 1 1 1 1 1 1 1 7-1 1-1 2 1-3 1 1 1 1 121 1 3 8 6 1-2 1 1-1 1-10 1-8 23",
   "2-2 3 1 1 1 1 1 1 1 1 1 1 1 5 2 1-1 2-32 30 1 1 1 1 1 1 1 1 1 1 1 1 1 1 1 1 9 1 1 1 1 1 1 1",
   "1 1 1 1 1 1 1 1 1 1 1 1 1 1 1 1 1 1 1 1-1 1 1 1 1 1 1 2 1 1 1 1 1 1 1 1 1 1 1 1 1 1 1 1 1 1",
   "1 1 1 1 1 1 1 1 1 1 1 1 1 1 1 1 1 1 1 1 1 1 1 1 1 1 1 1 1 2-25 b49-25 1 5 2d2-55 893 6-2a",
   "2-2 140 1 1 1 1 1 1 1 1 1 1 1 1 1 1 1 1 1 1 1 1 1 1 1 1 1 1 1 1 1 1 1 1 1 1 1 1 1 1 1 1 1 1",
   "1 1 1 1 1 1 1 1 1 1 1 1 1 1 1 1 1 1 1 1 1 1 1 1 1 1 1 1 1 1 1 1 9 1 1 1 1 1 1 1 1 1 1 1 1 1",
   "1 1 1 1 1 1 1 1 1 1 1 1 1 1 1 1 1 1 1 1 1 1 1 1 1 1 1 1 1 1 1 1 1 1 1 9-7 8-5 a-7 8-7 8-5 b",
   "1 1 1 8-7 48-3 c-3 c-3 c-4 b-3 106 4 3-2 2-2 2 3-4 6 1 1 1-3 2-3 a-1 5 1a-f 13 332-19 730-2f",
   "30 1-2 2 1 1 1-3 1 2 8-2 1 1 1 1 1 1 1 1 1 1 1 1 1 1 1 1 1 1 1 1 1 1 1 1 1 1 1 1 1 1 1 1 1 1",
   "1 1 1 1 1 1 1 1 1 1 1 1 1 1 1 8 1 4 794d 1 1 1 1 1 1 1 1 1 1 1 1 1 1 1 1 1 1 1 1 1 1 13 1 1",
   "1 1 1 1 1 1 1 1 1 1 1 87 1 1 1 1 1 1 3 1 1 1 1 1 1 1 1 1 1 1 1 1 1 1 1 1 1 1 1 1 1 1 1 1 1 1",
   "1 1 1 a 1 1-1 1 1 1 1 4 1 2 1 3 1 1 1 1 1 1 1 1 1 1-4 1-4 1 1 1 1 1 1 1 1-3 1 1-1 3 5 1 1 1",
   "18 572b-19 4c5-27 88-23 9c-a 1-e 1-6 1-1 6ea-32 9d-15 b3a-1f 5580-1f 65a0-19 1a-19 1a-19 1a",
   "1-1 2 2-1 2-3 1-7 1a-19 1a-1 1-3 2-7 1-6 1b-1 1-3 1-4 1 3-6 1b-19 1a-19 1a-19 1a-19 1a-19",
   "1a-19 1e-18 21-18 21-18 21-18 21-18 21 1135-21 80e-19 6-19 6-19"]

def variationSelector : CharTable := .ofRuns
  ["180b-2 1 e5f0-f d02f0-ef"]

def whiteSpace : CharTable := .ofRuns
  ["9-4 12 64 1a 15df 97f-a 1d-1 5 2f fa0"]

def byName : List (String × CharTable) :=
  [("ahex", asciiHexDigit), ("asciihexdigit", asciiHexDigit), ("alpha", alphabetic),
   ("alphabetic", alphabetic), ("bidic", bidiControl), ("bidicontrol", bidiControl),
   ("bidim", bidiMirrored), ("bidimirrored", bidiMirrored), ("caseignorable", caseIgnorable),
   ("ci", caseIgnorable), ("cased", cased), ("changeswhencasefolded", changesWhenCasefolded),
   ("cwcf", changesWhenCasefolded), ("changeswhenlowercased", changesWhenLowercased),
   ("cwl", changesWhenLowercased), ("changeswhenuppercased", changesWhenUppercased),
   ("cwu", changesWhenUppercased), ("dash", dash),
   ("defaultignorablecodepoint", defaultIgnorableCodePoint), ("di", defaultIgnorableCodePoint),
   ("dep", deprecated), ("deprecated", deprecated), ("dia", diacritic), ("diacritic", diacritic),
   ("emoji", emoji), ("ecomp", emojiComponent), ("emojicomponent", emojiComponent),
   ("emod", emojiModifier), ("emojimodifier", emojiModifier), ("ebase", emojiModifierBase),
   ("emojimodifierbase", emojiModifierBase), ("emojipresentation", emojiPresentation),
   ("epres", emojiPresentation), ("extendedpictographic", extendedPictographic),
   ("extpict", extendedPictographic), ("ext", extender), ("extender", extender),
   ("graphemeextend", graphemeExtend), ("grext", graphemeExtend), ("graphemelink", graphemeLink),
   ("grlink", graphemeLink), ("hex", hexDigit), ("hexdigit", hexDigit), ("hyphen", hyphen),
   ("idsb", idsBinaryOperator), ("idsbinaryoperator", idsBinaryOperator),
   ("idst", idsTrinaryOperator), ("idstrinaryoperator", idsTrinaryOperator),
   ("idsu", idsUnaryOperator), ("idsunaryoperator", idsUnaryOperator),
   ("idcompatmathstart", idCompatMathStart), ("ideo", ideographic), ("ideographic", ideographic),
   ("joinc", joinControl), ("joincontrol", joinControl), ("loe", logicalOrderException),
   ("logicalorderexception", logicalOrderException), ("lower", lowercase), ("lowercase", lowercase),
   ("math", math), ("mcm", modifierCombiningMark), ("modifiercombiningmark", modifierCombiningMark),
   ("nchar", noncharacterCodePoint), ("noncharactercodepoint", noncharacterCodePoint),
   ("odi", otherDefaultIgnorableCodePoint),
   ("otherdefaultignorablecodepoint", otherDefaultIgnorableCodePoint), ("oidc", otherIdContinue),
   ("otheridcontinue", otherIdContinue), ("oids", otherIdStart), ("otheridstart", otherIdStart),
   ("patsyn", patternSyntax), ("patternsyntax", patternSyntax),
   ("patternwhitespace", patternWhiteSpace), ("patws", patternWhiteSpace),
   ("pcm", prependedConcatenationMark), ("prependedconcatenationmark", prependedConcatenationMark),
   ("qmark", quotationMark), ("quotationmark", quotationMark), ("radical", radical),
   ("regionalindicator", regionalIndicator), ("ri", regionalIndicator),
   ("sentenceterminal", sentenceTerminal), ("sterm", sentenceTerminal), ("sd", softDotted),
   ("softdotted", softDotted), ("term", terminalPunctuation),
   ("terminalpunctuation", terminalPunctuation), ("uideo", unifiedIdeograph),
   ("unifiedideograph", unifiedIdeograph), ("upper", uppercase), ("uppercase", uppercase),
   ("variationselector", variationSelector), ("vs", variationSelector), ("space", whiteSpace),
   ("whitespace", whiteSpace), ("wspace", whiteSpace)]

end ApiMock.Property
