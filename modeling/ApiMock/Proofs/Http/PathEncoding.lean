import ApiMock.Http.Request
import ApiMock.Proofs.Http.FormEncoding

/-!
# Written paths

A path is written in a request with some of its characters as they are and the others as escapes of
their bytes. Reading the target of the request and decoding its path gives the path again.
-/

set_option autoImplicit false

namespace ApiMock

namespace PathEncoding

/-- Bytes as escapes, each by two hexadecimal digits of either case. -/
inductive Escapes : Bytes → List Char → Prop where
  | nil : Escapes [] []
  | cons {byte bytes high low raw} : high ∈ FormEncoding.hexDigits (byte.toNat / 16) →
      low ∈ FormEncoding.hexDigits (byte.toNat % 16) → Escapes bytes raw →
      Escapes (byte :: bytes) ('%' :: high :: low :: raw)

/-- How a path may be written. A percent sign is always escaped, and so is what would end the
path. -/
inductive Written : List Char → List Char → Prop where
  | nil : Written [] []
  | plain {c path raw} : c ∉ ['%', '?', '#'] → Written path raw → Written (c :: path) (c :: raw)
  | escaped {c path escapes raw} : Escapes (String.utf8EncodeChar c) escapes → Written path raw →
      Written (c :: path) (escapes ++ raw)

/-- The text is the path of a target: as a part of the target, or at the front of the text that the
target was read from, where only a query or a fragment may follow. -/
def HasPath (target : Target) (raw : List Char) : Prop :=
  target.path = String.ofList raw ∨
    raw.head? = some '/' ∧ ∃ rest : List Char, rest.head? ∈ [none, some '?', some '#'] ∧
      Target.ofString? (String.ofList (raw ++ rest)) = some target

variable {path raw rest : List Char} {c : Char} {target : Target}

theorem Escapes.bytes {bytes : Bytes} (escapes : Escapes bytes raw) (rest : List Char) :
    Percent.bytes (raw ++ rest) = bytes ++ Percent.bytes rest := by
  induction escapes with
  | nil => rfl
  | cons high low _ ih =>
      simp only [List.cons_append]
      rw [FormEncoding.bytes_escape high low, ih]

theorem Escapes.not_mem {bytes : Bytes} (escapes : Escapes bytes raw) (ends : c ∈ ['?', '#']) :
    c ∉ raw := by
  have noDigit : hexDigit? c = none := by
    rcases List.mem_pair.mp ends with rfl | rfl <;> decide
  have noPercent : c ≠ '%' := by
    rcases List.mem_pair.mp ends with rfl | rfl <;> decide
  have differ {n : Nat} {digit : Char} (listed : digit ∈ FormEncoding.hexDigits n) : c ≠ digit := by
    rintro rfl
    rw [(FormEncoding.hexDigit?_of_mem listed).1] at noDigit
    cases noDigit
  induction escapes with
  | nil => exact List.not_mem_nil
  | cons high low _ ih => simp [noPercent, differ high, differ low, ih]

theorem Written.bytes (written : Written path raw) :
    Percent.bytes raw = path.flatMap String.utf8EncodeChar := by
  induction written with
  | nil => rfl
  | plain free _ ih =>
      have noEscape := List.ne_of_not_mem_cons free
      rw [FormEncoding.bytes_cons noEscape, ih, List.flatMap_cons]
  | escaped escapes _ ih => rw [escapes.bytes, ih, List.flatMap_cons]

theorem Written.decode {path : String} (written : Written path.toList raw) :
    Percent.decode (String.ofList raw) = path := by
  have decoded : Percent.decode? (String.ofList raw) = some path := by
    rw [Percent.decode?, String.toList_ofList, written.bytes]
    exact Utf8.decode?_encode path
  rw [Percent.decode, decoded, Option.getD_some]

theorem Written.not_mem (written : Written path raw) (ends : c ∈ ['?', '#']) : c ∉ raw := by
  induction written with
  | nil => exact List.not_mem_nil
  | plain free _ ih =>
      intro member
      rcases List.mem_cons.mp member with rfl | member
      · exact free (List.mem_cons_of_mem _ ends)
      · exact ih member
  | escaped escapes _ ih =>
      intro member
      rcases List.mem_append.mp member with member | member
      · exact escapes.not_mem ends member
      · exact ih member

/-- What is in front of a query or a fragment is the path of the target. -/
theorem path_of_ofString? (starts : raw.head? = some '/') (question : '?' ∉ raw) (hash : '#' ∉ raw)
    (ends : rest.head? ∈ [none, some '?', some '#'])
    (read : Target.ofString? (String.ofList (raw ++ rest)) = some target) :
    target.path = String.ofList raw := by
  obtain ⟨raw, rfl⟩ : ∃ behind, raw = '/' :: behind := by
    cases raw with
    | nil => cases starts
    | cons c behind => cases starts; exact ⟨behind, rfl⟩
  rw [Target.ofString?, String.toList_ofList, List.cons_append] at read
  obtain ⟨resource, accepted, rfl⟩ := Option.map_eq_some_iff.mp read
  -- the text without a fragment, and then what is in front of a query
  have text : (Split.atFirst '#' ('/' :: (raw ++ rest))).1 =
      '/' :: raw ++ (Split.atFirst '#' rest).1 := Split.atFirst_append hash
  have nothing : (Split.atFirst '?' (Split.atFirst '#' rest).1).1 = [] := by
    cases rest with
    | nil => rfl
    | cons c behind =>
        obtain rfl | rfl : c = '?' ∨ c = '#' := by simpa using ends
        · simp [Split.atFirst]
        · simp [Split.atFirst]
  simp only [Target.resource?, text] at accepted
  split at accepted
  · cases accepted
    have parts : (Target.parts ⟨none, some (String.ofList
        ('/' :: raw ++ (Split.atFirst '#' rest).1))⟩).1 = '/' :: raw := by
      rw [Target.parts, Option.getD_some, String.toList_ofList, Split.atFirst_append question,
        nothing, List.append_nil]
    rw [Target.path, parts]
    rfl
  · cases accepted

theorem Written.path_eq (written : Written path raw) (has : HasPath target raw) :
    target.path = String.ofList raw := by
  obtain same | ⟨starts, rest, ends, read⟩ := has
  · exact same
  · exact path_of_ofString? starts (written.not_mem (by decide)) (written.not_mem (by decide)) ends
      read

/-- A path that is written in a request is read again. -/
theorem Written.decodedPath_eq {path : String} {request : Request}
    (written : Written path.toList raw) (has : HasPath request.target raw) :
    request.decodedPath = path := by
  rw [Request.decodedPath, Target.decodedPath, written.path_eq has, written.decode]

end PathEncoding

end ApiMock
