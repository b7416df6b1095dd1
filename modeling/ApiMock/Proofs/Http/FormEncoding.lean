import ApiMock.Proofs.Http.QueryJoining
import ApiMock.Proofs.Keyed.Insert
import ApiMock.Proofs.Text.Split
import ApiMock.Proofs.Text.Utf8
import Mathlib.Data.List.Forall2

/-!
# Form encoding

A list of parameters is written as a query by escaping keys and values, joining each key with its
value and joining the segments. A byte is escaped by two hexadecimal digits of either case; a space
may also be written as a plus sign, each one as the writer likes. Reading the query gives the values
of each key again, whichever way it was written.
-/

set_option autoImplicit false

namespace ApiMock

open List (Forall₂)

namespace FormEncoding

/-- ASCII letters, digits and four marks are written as they are. -/
def isUnreserved (byte : UInt8) : Bool :=
  (Char.ofNat byte.toNat).isAlphanum || ['-', '_', '.', '~'].contains (Char.ofNat byte.toNat)

/-- The hexadecimal digits of a value, in upper and in lower case. -/
def hexDigits (value : Nat) : List Char :=
  ("0123456789ABCDEF".toList[value]?).toList ++ ("0123456789abcdef".toList[value]?).toList

/-- How a byte is written. -/
inductive Spelling : UInt8 → List Char → Prop where
  | plain {byte} : isUnreserved byte → Spelling byte [Char.ofNat byte.toNat]
  | escape {byte high low} : ¬ isUnreserved byte → high ∈ hexDigits (byte.toNat / 16) →
      low ∈ hexDigits (byte.toNat % 16) → Spelling byte ['%', high, low]
  | plus : Spelling 0x20 ['+']

/-- How bytes are written, one after the other. -/
inductive Escaped : Bytes → List Char → Prop where
  | nil : Escaped [] []
  | cons {byte bytes raw rest} : Spelling byte raw → Escaped bytes rest →
      Escaped (byte :: bytes) (raw ++ rest)

/-- How a parameter is written. -/
def IsSegment (parameter : String × String) (segment : List Char) : Prop :=
  ∃ key value, Escaped (Utf8.encode parameter.1) key ∧ Escaped (Utf8.encode parameter.2) value ∧
    segment = key ++ '=' :: value

/-- How a list of parameters is written, with or without a question mark in front. -/
def IsQuery (parameters : List (String × String)) (query : String) : Prop :=
  ∃ segments, Forall₂ IsSegment parameters segments ∧
    (query.toList = ['&'].intercalate segments ∨ query.toList = '?' :: ['&'].intercalate segments)

/-! ## Bytes -/

/-- The characters that have a meaning in queries. -/
def marks : List Char := ['%', '+', '&', '=', '?']

variable {byte : UInt8} {text key value : String} {raw : List Char} {c : Char}
  {parameters : List (String × String)}

theorem hexDigit?_of_mem {n : Nat} (digit : c ∈ hexDigits n) :
    hexDigit? c = some n ∧ c ∉ marks := by
  have small : n < 16 := by
    by_contra large
    simp [hexDigits, Nat.not_lt.mp large] at digit
  have all : ∀ n ∈ List.range 16, (hexDigits n).all fun c => hexDigit? c = some n ∧ c ∉ marks := by
    decide
  exact of_decide_eq_true (List.all_eq_true.mp (all n (List.mem_range.mpr small)) c digit)

theorem utf8EncodeChar_of_isUnreserved (unreserved : isUnreserved byte) :
    String.utf8EncodeChar (Char.ofNat byte.toNat) = [byte] ∧ Char.ofNat byte.toNat ∉ marks := by
  have all : ∀ n < 256, isUnreserved (UInt8.ofNat n) →
      String.utf8EncodeChar (Char.ofNat n) = [UInt8.ofNat n] ∧ Char.ofNat n ∉ marks := by
    decide +kernel
  have here := all byte.toNat byte.toNat_lt
  rw [UInt8.ofNat_toNat] at here
  exact here unreserved

theorem Spelling.not_mem (spelling : Spelling byte raw) (separator : c ∈ ['&', '=', '?']) :
    c ∉ raw := by
  have mark : c ∈ marks := List.mem_of_mem_drop (i := 2) separator
  intro member
  cases spelling with
  | plain unreserved =>
      rw [List.mem_singleton.mp member] at mark
      exact (utf8EncodeChar_of_isUnreserved unreserved).2 mark
  | escape _ high low =>
      rcases List.mem_cons.mp member with rfl | member
      · exact absurd separator (by decide)
      · rcases List.mem_pair.mp member with rfl | rfl
        · exact (hexDigit?_of_mem high).2 mark
        · exact (hexDigit?_of_mem low).2 mark
  | plus =>
      rw [List.mem_singleton.mp member] at separator
      exact absurd separator (by decide)

/-- A plus sign as the space that it stands for. -/
def plusAsSpace (c : Char) : Char := if c = '+' then ' ' else c

theorem plusAsSpace_of_not_mem (plain : c ∉ marks) : plusAsSpace c = c := by
  refine if_neg fun same => plain ?_
  subst same
  decide

theorem bytes_cons (plain : c ≠ '%') :
    Percent.bytes (c :: raw) = String.utf8EncodeChar c ++ Percent.bytes raw := by
  simp [Percent.bytes, plain]

/-- Two digits for a byte are read as this byte, whatever follows. -/
theorem bytes_escape {high low : Char} (highDigit : high ∈ hexDigits (byte.toNat / 16))
    (lowDigit : low ∈ hexDigits (byte.toNat % 16)) (rest : List Char) :
    Percent.bytes ('%' :: high :: low :: rest) = byte :: Percent.bytes rest := by
  have joined : UInt8.ofNat (16 * (byte.toNat / 16) + byte.toNat % 16) = byte := by
    rw [Nat.div_add_mod, UInt8.ofNat_toNat]
  have escaped : Percent.escapedByte? high low = some byte := by
    rw [Percent.escapedByte?, (hexDigit?_of_mem highDigit).1, (hexDigit?_of_mem lowDigit).1]
    exact congrArg some joined
  rw [Percent.bytes, escaped]

/-- What is written for a byte is read as this byte, whatever follows. -/
theorem Spelling.bytes (spelling : Spelling byte raw) (rest : List Char) :
    Percent.bytes (raw.map plusAsSpace ++ rest) = byte :: Percent.bytes rest := by
  cases spelling with
  | plain unreserved =>
      obtain ⟨encoded, plain⟩ := utf8EncodeChar_of_isUnreserved unreserved
      have noEscape : Char.ofNat byte.toNat ≠ '%' := fun same => plain (same ▸ by decide)
      rw [List.map_singleton, plusAsSpace_of_not_mem plain, List.singleton_append,
        bytes_cons noEscape, encoded, List.singleton_append]
  | escape _ highDigit lowDigit =>
      obtain ⟨_, highPlain⟩ := hexDigit?_of_mem highDigit
      obtain ⟨_, lowPlain⟩ := hexDigit?_of_mem lowDigit
      simp only [List.map_cons, List.map_nil, plusAsSpace_of_not_mem highPlain,
        plusAsSpace_of_not_mem lowPlain, List.cons_append, List.nil_append]
      exact bytes_escape highDigit lowDigit rest
  | plus =>
      rw [List.map_singleton, List.singleton_append]
      exact bytes_cons (by decide)

/-! ## Texts and segments -/

theorem Escaped.not_mem {bytes : Bytes} (escaped : Escaped bytes raw)
    (separator : c ∈ ['&', '=', '?']) : c ∉ raw := by
  induction escaped with
  | nil => exact List.not_mem_nil
  | cons spelling _ ih =>
      intro member
      rcases List.mem_append.mp member with here | behind
      · exact spelling.not_mem separator here
      · exact ih behind

theorem Escaped.bytes {bytes : Bytes} (escaped : Escaped bytes raw) :
    Percent.bytes (raw.map plusAsSpace) = bytes := by
  induction escaped with
  | nil => rfl
  | cons spelling _ ih => rw [List.map_append, spelling.bytes, ih]

theorem Escaped.decode (escaped : Escaped (Utf8.encode text) raw) : Query.decode raw = text := by
  have decoded : Percent.decode? (String.ofList (raw.map plusAsSpace)) = some text := by
    rw [Percent.decode?, String.toList_ofList, escaped.bytes, Utf8.decode?_encode]
  show (Percent.decode? (String.ofList (raw.map plusAsSpace))).getD _ = text
  rw [decoded, Option.getD_some]

variable {segment : List Char} {segments : List (List Char)} {query : String}
  {entry : String × String}

theorem IsSegment.ne_nil (written : IsSegment entry segment) : segment ≠ [] := by
  obtain ⟨key, value, _, _, rfl⟩ := written
  simp

theorem IsSegment.not_mem (written : IsSegment entry segment) (separator : c ∈ ['&', '?']) :
    c ∉ segment := by
  obtain ⟨key, value, keyEscaped, valueEscaped, rfl⟩ := written
  have inner : c ∈ ['&', '=', '?'] := by
    rcases List.mem_pair.mp separator with rfl | rfl <;> decide
  have differ : c ≠ '=' := by
    rcases List.mem_pair.mp separator with rfl | rfl <;> decide
  intro member
  rcases List.mem_append.mp member with inKey | behind
  · exact keyEscaped.not_mem inner inKey
  · rcases List.mem_cons.mp behind with same | inValue
    · exact differ same
    · exact valueEscaped.not_mem inner inValue

theorem IsSegment.parameter (written : IsSegment entry segment) :
    Query.parameter segment = entry := by
  obtain ⟨key, value, keyEscaped, valueEscaped, rfl⟩ := written
  have free : '=' ∉ key := keyEscaped.not_mem (by decide)
  rw [Query.parameter, Split.atFirst_append_cons free]
  show (Query.decode key, Query.decode value) = entry
  rw [keyEscaped.decode, valueEscaped.decode]

/-! ## Queries -/

theorem forall_of_isSegment {property : List Char → Prop}
    (written : Forall₂ IsSegment parameters segments)
    (each : ∀ entry segment, IsSegment entry segment → property segment) :
    ∀ segment ∈ segments, property segment := by
  induction written with
  | nil => exact nofun
  | cons here _ ih => exact List.forall_mem_cons.mpr ⟨each _ _ here, ih⟩

theorem question_not_mem_intercalate (free : ∀ segment ∈ segments, '?' ∉ segment) :
    '?' ∉ ['&'].intercalate segments := by
  induction segments with
  | nil => exact List.not_mem_nil
  | cons segment segments ih =>
      obtain ⟨here, behind⟩ := List.forall_mem_cons.mp free
      cases segments with
      | nil => rwa [List.intercalate_singleton]
      | cons next segments =>
          rw [List.intercalate_cons_cons, List.mem_append, List.mem_append]
          rintro ((member | member) | member)
          · exact here member
          · exact absurd member (by decide)
          · exact ih behind member

/-- The segments of a written query are those that were joined. -/
theorem segments_eq (written : Forall₂ IsSegment parameters segments)
    (joined : query.toList = ['&'].intercalate segments ∨
      query.toList = '?' :: ['&'].intercalate segments) : Query.segments query = segments := by
  have noQuestion : ∀ segment ∈ segments, '?' ∉ segment :=
    forall_of_isSegment written fun _ _ segment => segment.not_mem (by decide)
  have noAmpersand : ∀ segment ∈ segments, '&' ∉ segment :=
    forall_of_isSegment written fun _ _ segment => segment.not_mem (by decide)
  have notEmpty : ∀ segment ∈ segments, (!segment.isEmpty) = true :=
    forall_of_isSegment written fun _ _ segment => by simp [segment.ne_nil]
  have unmarked : Query.body query.toList = ['&'].intercalate segments := by
    rcases joined with plain | marked
    · rw [plain]
      have free := question_not_mem_intercalate noQuestion
      exact Query.body_of_head?_ne fun first => free (List.mem_of_mem_head? first)
    · rw [marked, Query.body]
  rw [Query.segments, unmarked]
  cases segments with
  | nil => rfl
  | cons first rest =>
      rw [Split.atEach_intercalate (List.cons_ne_nil first rest) noAmpersand]
      exact List.filter_eq_self.mpr notEmpty

theorem map_parameter (written : Forall₂ IsSegment parameters segments) :
    segments.map Query.parameter = parameters := by
  induction written with
  | nil => rfl
  | cons here _ ih => rw [List.map_cons, here.parameter, ih]

/-- Reading a written query gives the parameters again, in their order. -/
theorem parameters_eq (written : IsQuery parameters query) :
    Query.parameters query = parameters := by
  obtain ⟨segments, written, joined⟩ := written
  rw [Query.parameters, segments_eq written joined, map_parameter written]

/-! ## Writing a query -/

/-- A byte with its digits in upper case. -/
def escapeByte (spaceAsPlus : Bool) (byte : UInt8) : List Char :=
  if isUnreserved byte then [Char.ofNat byte.toNat]
  else if spaceAsPlus && byte == 0x20 then ['+']
  else '%' :: ((hexDigits (byte.toNat / 16)).take 1 ++ (hexDigits (byte.toNat % 16)).take 1)

def escape (spaceAsPlus : Bool) (text : String) : List Char :=
  (Utf8.encode text).flatMap (escapeByte spaceAsPlus)

def write (spaceAsPlus : Bool) (parameters : List (String × String)) : List Char :=
  ['&'].intercalate (parameters.map fun parameter =>
    escape spaceAsPlus parameter.1 ++ '=' :: escape spaceAsPlus parameter.2)

theorem exists_hexDigit {n : Nat} (small : n < 16) :
    ∃ digit ∈ hexDigits n, (hexDigits n).take 1 = [digit] := by
  have all : ∀ n ∈ List.range 16, (hexDigits n).any fun c => (hexDigits n).take 1 = [c] := by
    decide
  obtain ⟨digit, listed, first⟩ := List.any_eq_true.mp (all n (List.mem_range.mpr small))
  exact ⟨digit, listed, of_decide_eq_true first⟩

theorem spelling_escapeByte (spaceAsPlus : Bool) (byte : UInt8) :
    Spelling byte (escapeByte spaceAsPlus byte) := by
  have bound := byte.toNat_lt
  unfold escapeByte
  split
  · rename_i unreserved
    exact .plain unreserved
  · rename_i reserved
    split
    · rename_i space
      obtain ⟨_, rfl⟩ : spaceAsPlus = true ∧ byte = 0x20 := by simpa using space
      exact .plus
    · obtain ⟨high, highDigit, isHigh⟩ := exists_hexDigit (n := byte.toNat / 16) (by omega)
      obtain ⟨low, lowDigit, isLow⟩ := exists_hexDigit (n := byte.toNat % 16) (by omega)
      rw [isHigh, isLow]
      exact .escape reserved highDigit lowDigit

theorem escaped_flatMap (spaceAsPlus : Bool) (bytes : Bytes) :
    Escaped bytes (bytes.flatMap (escapeByte spaceAsPlus)) := by
  induction bytes with
  | nil => exact .nil
  | cons byte rest ih => exact .cons (spelling_escapeByte spaceAsPlus byte) ih

theorem isQuery_write (spaceAsPlus : Bool)
    (written : query.toList = write spaceAsPlus parameters ∨
      query.toList = '?' :: write spaceAsPlus parameters) : IsQuery parameters query := by
  refine ⟨_, List.forall₂_map_right_iff.mpr (List.forall₂_same.mpr ?_), written⟩
  intro parameter _
  exact ⟨_, _, escaped_flatMap spaceAsPlus _, escaped_flatMap spaceAsPlus _, rfl⟩

end FormEncoding

open FormEncoding

/-- Every list of parameters can be written as a query, and however it is written, reading the query
gives each key its values in the order of the list, and no other key. -/
theorem grouped_of_isQuery (parameters : List (String × String)) :
    (∀ spaceAsPlus, IsQuery parameters (String.ofList (write spaceAsPlus parameters)) ∧
      IsQuery parameters (String.ofList ('?' :: write spaceAsPlus parameters))) ∧
    ∀ query, IsQuery parameters query →
      (Keyed.keys (Query.grouped query)).Nodup ∧
      ∀ key, (Query.grouped query).lookup key =
        if key ∈ Keyed.keys parameters then some (Keyed.valuesOf key parameters) else none := by
  refine ⟨fun spaceAsPlus => ⟨?_, ?_⟩, fun query written => ?_⟩
  · exact isQuery_write spaceAsPlus (.inl String.toList_ofList)
  · exact isQuery_write spaceAsPlus (.inr String.toList_ofList)
  · rw [Query.grouped, parameters_eq written]
    exact ⟨(Keyed.ascending_collect parameters).nodup, Keyed.lookup_collect parameters⟩

theorem grouped_of_isQuery_of_repeated_key :
    let parameters := [("a b", "1&2"), ("é", "=+%?"), ("a b", "")]
    let query := "?a+b=1%262&%C3%A9=%3D%2B%25%3F&a+b="
    IsQuery parameters query ∧ (Query.grouped query).lookup "a b" = some ["1&2", ""] := by
  intro parameters query
  have written : IsQuery parameters query := isQuery_write true (.inr (by decide +kernel))
  refine ⟨written, ?_⟩
  rw [((grouped_of_isQuery parameters).2 query written).2 "a b"]
  decide +kernel

end ApiMock
