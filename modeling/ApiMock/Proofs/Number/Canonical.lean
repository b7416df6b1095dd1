import ApiMock.Compare.Canonical
import ApiMock.Proofs.Number.Decimal
import ApiMock.Proofs.Number.Rounding
import ApiMock.Proofs.Text.Digits

/-!
# Canonical texts of equal numbers

Numbers that compare as equal have one canonical text, unless it is the sign of a zero that tells
them apart or an integer beyond `2 ^ 53` is not the one whose digits stand for the double.
-/

set_option autoImplicit false

namespace ApiMock

/-! ## Texts of integers -/

namespace NumberLayout

theorem writePositional_of_natCast {c : Nat} (positive : c ≠ 0) (zeros : Nat) :
    writePositional false ⟨c, zeros⟩ = Nat.toDigits 10 (c * 10 ^ zeros) := by
  rw [toDigits_mul_pow positive]
  simp [writePositional]
  rfl

/-- A decimal that is written like an integer is that integer. -/
theorem writePositional_eq_toDigits_iff {d : Decimal} {n : Nat} (positive : n ≠ 0) :
    writePositional false d = Nat.toDigits 10 n ↔
      ∃ c zeros : Nat, d = ⟨c, zeros⟩ ∧ c * 10 ^ zeros = n := by
  constructor
  · intro written
    by_cases whole : 0 ≤ d.exponent
    · obtain ⟨zeros, exponent⟩ := Int.eq_ofNat_of_zero_le whole
      refine ⟨d.coefficient, zeros, by rw [← exponent], ?_⟩
      obtain ⟨first, digits, leading, _, plain⟩ := exists_toDigits_eq_cons n
      have some : d.coefficient ≠ 0 := by
        intro zero
        rw [leading, writePositional, if_pos whole, zero] at written
        exact plain (Nat.pos_of_ne_zero positive) (List.cons.inj written).1.symm
      have text := writePositional_of_natCast some zeros
      rw [← exponent, written] at text
      rw [← @Nat.ofDigitChars_ten_toDigits n, text, Nat.ofDigitChars_ten_toDigits]
    · have point : '.' ∈ writePositional false d := by
        simp only [writePositional, if_neg whole]
        split <;> simp
      rw [written] at point
      cases isDigit_of_mem_toDigits point
  · rintro ⟨c, zeros, rfl, rfl⟩
    exact writePositional_of_natCast (Nat.ne_zero_of_mul_ne_zero_left positive) zeros

/-- A double is written like an integer if its shortest decimal is the integer. -/
theorem write_eq_toString_iff {x : Double} {v : Int} (some : x.significand ≠ 0) (nonzero : v ≠ 0)
    (sign : x.negative = decide (v < 0)) :
    toString v = canonical.write x ↔
      ∃ c zeros : Nat, Decimal.shortest .up x = ⟨c, zeros⟩ ∧ c * 10 ^ zeros = v.natAbs := by
  rw [← writePositional_eq_toDigits_iff (Int.natAbs_ne_zero.mpr nonzero), eq_comm,
    toString_eq_ofList_toDigits, write, if_neg some, sign, String.ofList_inj]
  simp only [decide_eq_true_eq]
  split
  · exact List.cons_inj_right '-'
  · rfl

theorem write_ofSmall (negative : Bool) {n : Nat} (positive : n ≠ 0) (small : n < 2 ^ 53) :
    canonical.write (.ofSmall negative n positive small) =
      String.ofList (if negative then '-' :: Nat.toDigits 10 n else Nat.toDigits 10 n) := by
  obtain ⟨k, divides, short⟩ := Decimal.exists_shortest_ofSmall .up negative positive small
  obtain ⟨c, zeros, trimmed, whole⟩ := Decimal.trim_eq (n / 10 ^ k) k 20
  have value : c * 10 ^ (k + zeros) = n := by
    rw [Nat.add_comm, Nat.pow_add, ← Nat.mul_assoc, whole, Nat.div_mul_cancel divides]
  have some : c ≠ 0 := by
    rintro rfl
    rw [Nat.zero_mul] at value
    exact positive value.symm
  have wide := Double.ofSmall_significand_ne_zero negative positive small
  have text := writePositional_of_natCast some (k + zeros)
  rw [value, Int.natCast_add, ← trimmed, ← short] at text
  simp only [write, canonical, if_neg wide, text]
  rfl

theorem write_of_zero {x : Double} (zero : x.significand = 0) :
    canonical.write x = if x.negative then "-0" else "0" := by
  cases sign : x.negative <;> simp [write, canonical, zero, sign]

end NumberLayout

/-! ## Integers as doubles -/

namespace Double

/-- An integer of at most `2 ^ 53` other than zero is a double with its text. -/
theorem exists_ofInt_eq_some {v : Int} (nonzero : v ≠ 0) (small : v.natAbs ≤ 2 ^ 53) :
    ∃ x, ofInt v = some x ∧ x.significand ≠ 0 ∧
      NumberLayout.canonical.write x = toString v := by
  obtain below | edge := Nat.lt_or_eq_of_le small
  · have positive : v.natAbs ≠ 0 := Int.natAbs_ne_zero.mpr nonzero
    refine ⟨ofSmall (decide (v < 0)) v.natAbs positive below, round_one _ positive below, ?_, ?_⟩
    · exact ofSmall_significand_ne_zero _ positive below
    · rw [NumberLayout.write_ofSmall, toString_eq_ofList_toDigits]
      simp
  · obtain rfl | rfl := Int.natAbs_eq_iff.mp edge
    · refine ⟨⟨false, 0x10000000000000, 1, by decide⟩, rfl, by decide, by decide +kernel⟩
    · refine ⟨⟨true, 0x10000000000000, 1, by decide⟩, rfl, by decide, by decide +kernel⟩

end Double

namespace Number

/-! ## Numbers that compare as equal -/

/-- The zero that is written with a sign. -/
def IsNegativeZero : Number → Prop
  | integer _ _ => False
  | double x => x.significand = 0 ∧ x.negative = true

/-- Where an integer beyond `2 ^ 53` meets a double, it is the one whose digits the double is written
with. -/
def WrittenAlike : Number → Number → Prop
  | integer v _, double x | double x, integer v _ =>
    v.natAbs ≤ 2 ^ 53 ∨
      ∃ c zeros : Nat, Decimal.shortest .up x = ⟨c, zeros⟩ ∧ c * 10 ^ zeros = v.natAbs
  | _, _ => True

theorem canonical_double_eq_iff {x y : Double} (same : x.units = y.units) :
    (double x).canonical = (double y).canonical ↔
      ((double x).IsNegativeZero ↔ (double y).IsNegativeZero) := by
  by_cases zero : x.significand = 0
  · have other := (Double.significand_eq_zero_iff_of_units_eq same).mp zero
    simp only [canonical, NumberLayout.write_of_zero zero, NumberLayout.write_of_zero other,
      IsNegativeZero, zero, other, true_and]
    cases x.negative <;> cases y.negative <;> decide
  · rw [Double.eq_of_units_eq same zero]
    simp

theorem canonical_integer_eq_iff {v : Int} {fits : FitsWord v} {x : Double}
    (same : (integer v fits).roundedUnits = x.units) :
    (integer v fits).canonical = (double x).canonical ↔
      ¬ (double x).IsNegativeZero ∧ WrittenAlike (integer v fits) (double x) := by
  obtain ⟨y, read, sign, magnitude⟩ := Double.exists_ofInt v fits
  have equal : y.units = x.units := (units_eq_of_ofInt read).trans same
  by_cases zero : v = 0
  · subst zero
    cases read
    have other := (Double.significand_eq_zero_iff_of_units_eq equal).mp rfl
    simp only [canonical, NumberLayout.write_of_zero other, IsNegativeZero, other, true_and,
      WrittenAlike, Int.natAbs_zero, Nat.zero_le, true_or, and_true]
    cases x.negative <;> decide
  have wide : y.significand ≠ 0 := by
    rw [ne_eq, ← Double.magnitude_eq_zero_iff, magnitude]
    exact Nat.mul_ne_zero (Double.rounded_ne_zero (Int.natAbs_ne_zero.mpr zero)) (by decide +kernel)
  obtain rfl := Double.eq_of_units_eq equal wide
  simp only [canonical, IsNegativeZero, wide, false_and, not_false_eq_true, true_and, WrittenAlike]
  by_cases small : v.natAbs ≤ 2 ^ 53
  · obtain ⟨z, exact, _, text⟩ := Double.exists_ofInt_eq_some zero small
    rw [read, Option.some.injEq] at exact
    subst exact
    exact iff_of_true text.symm (.inl small)
  · rw [NumberLayout.write_eq_toString_iff wide zero sign, or_iff_right small]

/-- Equal numbers have one text if and only if both or neither are the negative zero and a large
integer is the one that the double is written as. -/
theorem canonical_eq_iff_of_eqv {m n : Number} (same : m.eqv n = true) :
    (Value.number m).canonical = (Value.number n).canonical ↔
      (m.IsNegativeZero ↔ n.IsNegativeZero) ∧ WrittenAlike m n := by
  rw [Value.canonical, Value.canonical]
  rw [eqv_iff] at same
  cases m with
  | integer v fits =>
      cases n with
      | integer w others =>
          cases same
          simp [WrittenAlike]
      | double x =>
          rw [canonical_integer_eq_iff same]
          simp [IsNegativeZero]
  | double x =>
      cases n with
      | integer v fits =>
          rw [eq_comm, canonical_integer_eq_iff same.symm]
          simp [IsNegativeZero, WrittenAlike]
      | double y =>
          rw [canonical_double_eq_iff same]
          simp [WrittenAlike]

theorem canonical_eq_iff_of_eqv_of_large_integer :
    let m := integer (-0x20000000000002) (by decide)
    let n := double ⟨true, 0x10000000000001, 1, by decide⟩
    m.eqv n = true ∧ (Value.number m).canonical = (Value.number n).canonical := by
  intro m n
  have same : m.eqv n = true := by decide +kernel
  have digits : Decimal.shortest .up ⟨true, 0x10000000000001, 1, by decide⟩ =
      ⟨0x20000000000002, (0 : Nat)⟩ := by decide +kernel
  refine ⟨same, (canonical_eq_iff_of_eqv same).mpr ⟨?_, .inr ⟨_, 0, digits, rfl⟩⟩⟩
  simp [m, n, IsNegativeZero]

/-- The next integer is compared with a double by way of the double before it. Farther up, the
digits that tell doubles apart do not fill an integer, and zeros take the place of the others. The
negative zero keeps its sign. -/
theorem exists_eqv_of_canonical_ne :
    (integer 0x20000000000001 (by decide)).eqv
          (double ⟨false, 0x10000000000000, 1, by decide⟩) = true ∧
      (Value.number (integer 0x20000000000001 (by decide))).canonical ≠
          (Value.number (double ⟨false, 0x10000000000000, 1, by decide⟩)).canonical ∧
      (integer 0x40000000000008 (by decide)).eqv
          (double ⟨false, 0x10000000000002, 2, by decide⟩) = true ∧
      (Value.number (integer 0x40000000000008 (by decide))).canonical ≠
          (Value.number (double ⟨false, 0x10000000000002, 2, by decide⟩)).canonical ∧
      (integer 0 (by decide)).eqv (double (Double.zero true)) = true ∧
      (Value.number (integer 0 (by decide))).canonical ≠
          (Value.number (double (Double.zero true))).canonical := by
  decide +kernel

end Number

end ApiMock
