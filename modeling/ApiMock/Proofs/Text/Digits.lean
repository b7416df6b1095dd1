import Mathlib.Data.Nat.Digits.Defs

/-!
# Decimal digits

The digits of an integer are digits and no other integer has them. The first one is no zero unless it
is the only one, and zeros behind them multiply by ten.
-/

set_option autoImplicit false

namespace ApiMock

theorem isDigit_of_mem_toDigits {n : Nat} {c : Char} (member : c ∈ Nat.toDigits 10 n) :
    c.isDigit = true :=
  Nat.isDigit_of_mem_toDigits (by decide) (by decide) member

theorem exists_toDigits_eq_cons (n : Nat) :
    ∃ c digits, Nat.toDigits 10 n = c :: digits ∧ c.isDigit = true ∧ (0 < n → c ≠ '0') := by
  induction n using Nat.strongRecOn with
  | ind n ih =>
      by_cases small : n < 10
      · have written := Nat.toDigits_of_lt_base small
        refine ⟨_, [], written, ?_, ?_⟩
        · apply isDigit_of_mem_toDigits (n := n)
          rw [written]
          exact List.mem_singleton_self _
        · intro positive
          rw [ne_eq, Nat.digitChar_eq_zero]
          omega
      · obtain ⟨c, digits, leading, digit, plain⟩ := ih (n / 10) (by omega)
        refine ⟨c, digits ++ [Nat.digitChar (n % 10)], ?_, digit, ?_⟩
        · rw [Nat.toDigits_of_base_le (by decide) (by omega), leading]
          rfl
        · intro _
          exact plain (by omega)

theorem toDigits_append_ne_cons {n : Nat} {c : Char} {rest after : List Char}
    (other : c.isDigit = false) : Nat.toDigits 10 n ++ rest ≠ c :: after := by
  intro same
  obtain ⟨first, digits, written, digit, _⟩ := exists_toDigits_eq_cons n
  rw [written] at same
  rw [(List.cons.inj same).1, other] at digit
  cases digit

theorem toDigits_mul_pow {c : Nat} (positive : c ≠ 0) (zeros : Nat) :
    Nat.toDigits 10 (c * 10 ^ zeros) = Nat.toDigits 10 c ++ List.replicate zeros '0' := by
  induction zeros with
  | zero => simp
  | succ zeros ih =>
      have least : 0 < c * 10 ^ zeros :=
        Nat.mul_pos (Nat.pos_of_ne_zero positive) (Nat.pow_pos (by decide))
      rw [Nat.pow_succ, ← Nat.mul_assoc, Nat.toDigits_of_base_le (by decide) (by omega),
        Nat.mul_div_cancel _ (by decide), Nat.mul_mod_left, ih, List.append_assoc,
        List.replicate_succ']
      rfl

theorem eq_of_toString_eq {m n : Nat} (same : toString m = toString n) : m = n := by
  have digits : Nat.toDigits 10 m = Nat.toDigits 10 n := by
    rw [← Nat.toList_repr, ← Nat.toList_repr]
    exact congrArg String.toList same
  rw [← @Nat.ofDigitChars_ten_toDigits m, digits, Nat.ofDigitChars_ten_toDigits]

theorem toString_eq_ofList_toDigits (v : Int) :
    toString v = String.ofList
      (if v < 0 then '-' :: Nat.toDigits 10 v.natAbs else Nat.toDigits 10 v.natAbs) := by
  cases v with
  | ofNat n =>
    have front : ¬ Int.ofNat n < 0 := Int.not_lt.mpr (Int.natCast_nonneg n)
    rw [if_neg front]
    rfl
  | negSucc n =>
    rw [if_pos (Int.negSucc_lt_zero n)]
    change String.ofList ['-'] ++ String.ofList _ = String.ofList (['-'] ++ _)
    rw [String.ofList_append]
    rfl

end ApiMock
