import ApiMock.Text.Utf8

/-!
# UTF-8 round trips

Decoding the bytes of a text gives the text again. The bytes of a character are read in one step,
whatever follows them.
-/

set_option autoImplicit false

namespace ApiMock.Utf8

variable {n value count v : Nat} {byte low high : UInt8} {lead : Lead} {rest after : Bytes}

theorem Lead.ofByte?_ofNat (small : n < 256) :
    Lead.ofByte? (UInt8.ofNat n) =
      if n < 0x80 then some ⟨n, 0, 0x80, 0xBF⟩
      else if n < 0xC2 then none
      else if n < 0xE0 then some ⟨n - 0xC0, 1, 0x80, 0xBF⟩
      else if n = 0xE0 then some ⟨0, 2, 0xA0, 0xBF⟩
      else if n = 0xED then some ⟨0xD, 2, 0x80, 0x9F⟩
      else if n < 0xF0 then some ⟨n - 0xE0, 2, 0x80, 0xBF⟩
      else if n = 0xF0 then some ⟨0, 3, 0x90, 0xBF⟩
      else if n < 0xF4 then some ⟨n - 0xF0, 3, 0x80, 0xBF⟩
      else if n = 0xF4 then some ⟨4, 3, 0x80, 0x8F⟩
      else none := by
  have same : (UInt8.ofNat n).toNat = n := UInt8.toNat_ofNat_of_lt small
  simp only [ofByte?, UInt8.lt_iff_toNat_lt, ← UInt8.toNat_inj, UInt8.reduceToNat, same]

theorem following_cons (least : low.toNat ≤ n + 0x80) (most : n + 0x80 ≤ high.toNat) :
    following value (count + 1) low high (UInt8.ofNat (n + 0x80) :: rest) =
      following (value * 64 + n) count 0x80 0xBF rest := by
  have bound := high.toNat_lt
  have same : (UInt8.ofNat (n + 0x80)).toNat = n + 0x80 :=
    UInt8.toNat_ofNat_of_lt (show n + 0x80 < 256 by omega)
  have inside : low ≤ UInt8.ofNat (n + 0x80) ∧ UInt8.ofNat (n + 0x80) ≤ high := by
    rw [UInt8.le_iff_toNat_le, UInt8.le_iff_toNat_le, same]
    exact ⟨least, most⟩
  rw [following, if_pos inside, same, Nat.add_sub_cancel]

/-- Bytes behind the first one that may follow are in the same range for all characters. -/
theorem following_cons_of_lt (small : n < 64) :
    following value (count + 1) 0x80 0xBF (UInt8.ofNat (n + 0x80) :: rest) =
      following (value * 64 + n) count 0x80 0xBF rest :=
  following_cons (Nat.le_add_left _ _) (show n + 0x80 ≤ 0xBF by omega)

theorem step_of_lead (lead : Lead) (announced : Lead.ofByte? byte = some lead)
    (read : following lead.bits lead.following lead.low lead.high rest = .ok (value, after)) :
    step byte rest = (some (Char.ofNat value), after) := by
  rw [step, announced]
  simp only [read]

/-! ## Characters by the number of their bytes -/

theorem step_one (most : v < 0x80) : step (UInt8.ofNat v) rest = (some (Char.ofNat v), rest) := by
  refine step_of_lead ⟨v, 0, 0x80, 0xBF⟩ ?_ rfl
  rw [Lead.ofByte?_ofNat (by omega), if_pos most]

theorem step_two (least : 0x80 ≤ v) (most : v < 0x800) :
    step (UInt8.ofNat (v / 64 % 32 + 0xC0)) (UInt8.ofNat (v % 64 + 0x80) :: rest) =
      (some (Char.ofNat v), rest) := by
  have announced : Lead.ofByte? (UInt8.ofNat (v / 64 % 32 + 0xC0)) =
      some ⟨v / 64 % 32, 1, 0x80, 0xBF⟩ := by
    rw [Lead.ofByte?_ofNat (by omega), if_neg (by omega), if_neg (by omega), if_pos (by omega),
      Nat.add_sub_cancel]
  refine step_of_lead _ announced ?_
  rw [following_cons_of_lt (by omega), following, show v / 64 % 32 * 64 + v % 64 = v by omega]

theorem step_three (least : 0x800 ≤ v) (most : v < 0x10000)
    (noSurrogate : v < 0xD800 ∨ 0xDFFF < v) :
    step (UInt8.ofNat (v / 4096 % 16 + 0xE0))
        (UInt8.ofNat (v / 64 % 64 + 0x80) :: UInt8.ofNat (v % 64 + 0x80) :: rest) =
      (some (Char.ofNat v), rest) := by
  have announced := Lead.ofByte?_ofNat (n := v / 4096 % 16 + 0xE0) (by omega)
  rw [if_neg (by omega), if_neg (by omega), if_neg (by omega)] at announced
  -- the first block of 4096 characters lacks shorter ones, the fourteenth one lacks surrogates
  split at announced
  · refine step_of_lead _ announced ?_
    rw [following_cons (show 0xA0 ≤ _ by omega) (show _ ≤ 0xBF by omega),
      following_cons_of_lt (by omega), following,
      show (0 * 64 + v / 64 % 64) * 64 + v % 64 = v by omega]
  · split at announced
    · refine step_of_lead _ announced ?_
      rw [following_cons (show 0x80 ≤ _ by omega) (show _ ≤ 0x9F by omega),
        following_cons_of_lt (by omega), following,
        show (0xD * 64 + v / 64 % 64) * 64 + v % 64 = v by omega]
    · rw [if_pos (by omega), Nat.add_sub_cancel] at announced
      refine step_of_lead _ announced ?_
      rw [following_cons_of_lt (by omega), following_cons_of_lt (by omega), following,
        show (v / 4096 % 16 * 64 + v / 64 % 64) * 64 + v % 64 = v by omega]

theorem step_four (least : 0x10000 ≤ v) (most : v < 0x110000) :
    step (UInt8.ofNat (v / 262144 % 8 + 0xF0))
        (UInt8.ofNat (v / 4096 % 64 + 0x80) :: UInt8.ofNat (v / 64 % 64 + 0x80) ::
          UInt8.ofNat (v % 64 + 0x80) :: rest) =
      (some (Char.ofNat v), rest) := by
  have announced := Lead.ofByte?_ofNat (n := v / 262144 % 8 + 0xF0) (by omega)
  rw [if_neg (by omega), if_neg (by omega), if_neg (by omega), if_neg (by omega),
    if_neg (by omega), if_neg (by omega)] at announced
  -- the first block lacks shorter ones, the last one ends at the last code point
  split at announced
  · refine step_of_lead _ announced ?_
    rw [following_cons (show 0x90 ≤ _ by omega) (show _ ≤ 0xBF by omega),
      following_cons_of_lt (by omega), following_cons_of_lt (by omega), following,
      show ((0 * 64 + v / 4096 % 64) * 64 + v / 64 % 64) * 64 + v % 64 = v by omega]
  · split at announced
    · rw [Nat.add_sub_cancel] at announced
      refine step_of_lead _ announced ?_
      rw [following_cons_of_lt (by omega), following_cons_of_lt (by omega),
        following_cons_of_lt (by omega), following,
        show ((v / 262144 % 8 * 64 + v / 4096 % 64) * 64 + v / 64 % 64) * 64 + v % 64 = v by omega]
    · rw [if_pos (by omega)] at announced
      refine step_of_lead _ announced ?_
      rw [following_cons (show 0x80 ≤ _ by omega) (show _ ≤ 0x8F by omega),
        following_cons_of_lt (by omega), following_cons_of_lt (by omega), following,
        show ((4 * 64 + v / 4096 % 64) * 64 + v / 64 % 64) * 64 + v % 64 = v by omega]

/-! ## Texts -/

theorem characters_encodeChar_append (c : Char) (rest : Bytes) :
    characters (String.utf8EncodeChar c ++ rest) = some c :: characters rest := by
  have valid : c.val.toNat < 0xD800 ∨ 0xDFFF < c.val.toNat ∧ c.val.toNat < 0x110000 := c.valid
  have again : Char.ofNat c.val.toNat = c := Char.ofNat_toNat c
  unfold String.utf8EncodeChar
  dsimp only
  split
  · rw [List.cons_append, characters, List.nil_append, step_one (by omega), again]
  · split
    · simp only [List.cons_append, List.nil_append]
      rw [characters, step_two (by omega) (by omega), again]
    · split
      · simp only [List.cons_append, List.nil_append]
        rw [characters, step_three (by omega) (by omega) (by omega), again]
      · simp only [List.cons_append, List.nil_append]
        rw [characters, step_four (by omega) (by omega), again]

theorem characters_flatMap_encodeChar (text : List Char) :
    characters (text.flatMap String.utf8EncodeChar) = text.map some := by
  induction text with
  | nil => rw [List.flatMap_nil, characters, List.map_nil]
  | cons c rest ih =>
      rw [List.flatMap_cons, characters_encodeChar_append, ih, List.map_cons]

@[simp] theorem decode?_encode (text : String) : decode? (encode text) = some text := by
  have whole : (text.toList.map some).mapM id = some text.toList := by
    rw [List.mapM_map]
    exact (List.mapM_pure (f := id)).trans (congrArg _ (List.map_id _))
  rw [decode?, encode, characters_flatMap_encodeChar, whole, Option.map_some, String.ofList_toList]

@[simp] theorem decodeLossy_encode (text : String) : decodeLossy (encode text) = text := by
  rw [decodeLossy, encode, characters_flatMap_encodeChar, List.map_map]
  exact (congrArg String.ofList (List.map_id _)).trans String.ofList_toList

end ApiMock.Utf8
