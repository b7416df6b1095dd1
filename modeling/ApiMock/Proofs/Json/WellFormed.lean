import ApiMock.Json.Reader
import ApiMock.Proofs.Value.Part

/-!
# Documents that are read from JSON

Members are inserted into keyed lists as they are read, so every document that is read is well-formed.
-/

set_option autoImplicit false

namespace ApiMock.Json

open Value (WellFormed)

theorem wellFormed_of_expectWord {word text rest : List Char} {value found : Value}
    (wellFormed : value.WellFormed) (read : expectWord value word text = .ok (found, rest)) :
    found.WellFormed := by
  induction word generalizing text with
  | nil => cases read; exact wellFormed
  | cons letter word ih =>
      cases text with
      | nil => cases read
      | cons c text =>
          rw [expectWord] at read
          split at read
          · exact ih read
          · cases read

theorem wellFormed_array_nil : WellFormed (.array []) :=
  Value.wellFormed_array_iff.mpr nofun

theorem wellFormed_object_nil : WellFormed (.object []) :=
  Value.wellFormed_object_iff.mpr ⟨.nil, nofun⟩

mutual

theorem wellFormed_of_readValue : ∀ {fuel depth : Nat} {text rest : List Char} {value : Value},
    readValue fuel depth text = .ok (value, rest) → value.WellFormed
  | 0, _, _, _, _, read => by cases read
  | fuel + 1, _, _, _, _, read => by
      rw [readValue] at read
      split at read
      · cases read
      · exact wellFormed_of_expectWord (by decide) read
      · exact wellFormed_of_expectWord (by decide) read
      · exact wellFormed_of_expectWord (by decide) read
      · split at read
        · cases read; exact .of_isScalar trivial
        · cases read
      · split at read
        · cases read
        · split at read
          · cases read; exact wellFormed_array_nil
          · exact wellFormed_of_readItems (by simp) read
      · split at read
        · cases read
        · split at read
          · cases read; exact wellFormed_object_nil
          · exact wellFormed_of_readMembers wellFormed_object_nil read
      · split at read
        · cases read; exact .of_isScalar trivial
        · cases read
      · split at read
        · split at read
          · cases read; exact .of_isScalar trivial
          · cases read
        · cases read

theorem wellFormed_of_readItems : ∀ {fuel depth : Nat} {items : List Value} {text rest : List Char}
    {value : Value}, (∀ item ∈ items, item.WellFormed) →
    readItems fuel depth items text = .ok (value, rest) → value.WellFormed
  | 0, _, _, _, _, _, _, read => by cases read
  | fuel + 1, _, _, _, _, _, wellFormed, read => by
      rw [readItems] at read
      split at read
      · cases read
      · rename_i found
        have extended := List.forall_mem_cons.mpr ⟨wellFormed_of_readValue found, wellFormed⟩
        split at read
        · exact wellFormed_of_readItems extended read
        · cases read
          exact Value.wellFormed_array_iff.mpr fun item member =>
            extended item (List.mem_reverse.mp member)
        · cases read
        · cases read

theorem wellFormed_of_readMembers : ∀ {fuel depth : Nat} {members : List (String × Value)}
    {text rest : List Char} {value : Value}, WellFormed (.object members) →
    readMembers fuel depth members text = .ok (value, rest) → value.WellFormed
  | 0, _, _, _, _, _, _, read => by cases read
  | fuel + 1, _, _, _, _, _, wellFormed, read => by
      rw [readMembers] at read
      split at read
      · split at read
        · cases read
        · split at read
          · split at read
            · cases read
            · rename_i found
              have inner := wellFormed_of_readValue found
              split at read
              · exact wellFormed_of_readMembers (wellFormed.insert inner) read
              · cases read
                exact wellFormed.insert inner
              · cases read
              · cases read
          · cases read
          · cases read
      · cases read
      · cases read

end

/-- Every document that is read is well-formed. -/
theorem wellFormed_of_read {text : String} {value : Value} (found : read text = .ok value) :
    value.WellFormed := by
  unfold read at found
  dsimp only at found
  split at found
  · cases found
  · rename_i inner
    split at found
    · cases found
      exact wellFormed_of_readValue inner
    · cases found

theorem wellFormed_of_readBytes {bytes : Bytes} {value : Value}
    (found : readBytes bytes = .ok value) : value.WellFormed := by
  unfold readBytes at found
  split at found
  · exact wellFormed_of_read found
  · cases found

end ApiMock.Json
