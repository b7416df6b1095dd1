/-!
# UTF-8

Encoding of text as bytes, strict decoding, and lossy decoding, which replaces every maximal
ill-formed run by the replacement character. All three work on lists, so that a message body, a
percent-decoded component and a header value share one definition.
-/

set_option autoImplicit false

namespace ApiMock

abbrev Bytes := List UInt8

namespace Utf8

def encode (text : String) : Bytes :=
  text.toList.flatMap String.utf8EncodeChar

/-- What a leading byte announces: the bits it contributes, the number of bytes that follow, and
the range of the first of them. Later ones are always between `0x80` and `0xBF`. -/
structure Lead where
  bits : Nat
  following : Nat
  low : UInt8
  high : UInt8

/-- The announcement of a leading byte; none for a byte that starts no character. The ranges of the
second byte rule out overlong forms, surrogates and values above the last code point. -/
def Lead.ofByte? (byte : UInt8) : Option Lead :=
  if byte < 0x80 then some ⟨byte.toNat, 0, 0x80, 0xBF⟩
  else if byte < 0xC2 then none
  else if byte < 0xE0 then some ⟨byte.toNat - 0xC0, 1, 0x80, 0xBF⟩
  else if byte = 0xE0 then some ⟨0, 2, 0xA0, 0xBF⟩
  else if byte = 0xED then some ⟨0xD, 2, 0x80, 0x9F⟩
  else if byte < 0xF0 then some ⟨byte.toNat - 0xE0, 2, 0x80, 0xBF⟩
  else if byte = 0xF0 then some ⟨0, 3, 0x90, 0xBF⟩
  else if byte < 0xF4 then some ⟨byte.toNat - 0xF0, 3, 0x80, 0xBF⟩
  else if byte = 0xF4 then some ⟨4, 3, 0x80, 0x8F⟩
  else none

/-- Reads the bytes that follow a leading byte. Either the code point and what is left, or, at the
first byte out of range, what is left from there on. -/
def following (value : Nat) : Nat → UInt8 → UInt8 → Bytes → Except Bytes (Nat × Bytes)
  | 0, _, _, rest => .ok (value, rest)
  | _ + 1, _, _, [] => .error []
  | count + 1, low, high, byte :: rest =>
    if low ≤ byte ∧ byte ≤ high then
      following (value * 64 + (byte.toNat - 0x80)) count 0x80 0xBF rest
    else .error (byte :: rest)

def remaining : Except Bytes (Nat × Bytes) → Bytes
  | .ok (_, rest) => rest
  | .error rest => rest

theorem length_remaining_following (value count : Nat) (low high : UInt8) (bytes : Bytes) :
    (remaining (following value count low high bytes)).length ≤ bytes.length := by
  induction bytes generalizing value count low high with
  | nil => cases count <;> simp [following, remaining]
  | cons byte rest ih =>
    cases count with
    | zero => simp [following, remaining]
    | succ count =>
      by_cases inside : low ≤ byte ∧ byte ≤ high
      · simpa [following, inside] using Nat.le_succ_of_le (ih _ _ _ _)
      · simp [following, inside, remaining]

/-- One step of decoding a non-empty list: the character at its front, or none for a maximal
ill-formed run, and the bytes behind it. -/
def step (byte : UInt8) (rest : Bytes) : Option Char × Bytes :=
  match Lead.ofByte? byte with
  | none => (none, rest)
  | some lead =>
    match following lead.bits lead.following lead.low lead.high rest with
    | .ok (value, after) => (some (Char.ofNat value), after)
    | .error after => (none, after)

theorem length_step_le (byte : UInt8) (rest : Bytes) :
    (step byte rest).2.length ≤ rest.length := by
  cases announced : Lead.ofByte? byte with
  | none => simp [step, announced]
  | some lead =>
    have bound := length_remaining_following lead.bits lead.following lead.low lead.high rest
    cases read : following lead.bits lead.following lead.low lead.high rest with
    | ok pair =>
      obtain ⟨value, after⟩ := pair
      simpa [step, announced, read, remaining] using bound
    | error after => simpa [step, announced, read, remaining] using bound

def characters : Bytes → List (Option Char)
  | [] => []
  | byte :: rest => (step byte rest).1 :: characters (step byte rest).2
termination_by bytes => bytes.length
decreasing_by
  exact Nat.lt_succ_of_le (length_step_le byte rest)

def decode? (bytes : Bytes) : Option String :=
  ((characters bytes).mapM id).map String.ofList

def decodeLossy (bytes : Bytes) : String :=
  String.ofList ((characters bytes).map (·.getD '\uFFFD'))

end Utf8

end ApiMock
